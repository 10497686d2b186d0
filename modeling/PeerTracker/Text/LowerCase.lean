import PeerTracker.Text.CaseTable

/-!
# Lower case

Every character goes to its lower-case form. Two rules look further: a capital
sigma becomes a final sigma when a cased letter stands before it and none after
it, characters without effect on case being passed over on both sides; and a
capital I with dot becomes two characters.
-/

namespace PeerTracker.LowerCase

open CaseTable

def inRanges (table : List (Nat × Nat)) (c : Char) : Bool :=
  table.any fun r => r.1 ≤ c.toNat && c.toNat ≤ r.2

def isCased (c : Char) : Bool := inRanges casedRanges c

def isCaseIgnorable (c : Char) : Bool := inRanges caseIgnorableRanges c

/-- The shift of a character that has a one-character lower-case form. -/
def shift? (c : Char) : Option Int :=
  (lowerRuns.find? fun r =>
    r.1 ≤ c.toNat && c.toNat ≤ r.2.1 && (c.toNat - r.1) % r.2.2.1 == 0).map (·.2.2.2)

def lowerChar (c : Char) : Char :=
  if c.toNat < 0x80 then c.toLower
  else match shift? c with
    | some d => Char.ofNat (c.toNat + d).toNat
    | none => c

/-- The first character that counts for case is a cased one. -/
def meetsCased (cs : List Char) : Bool :=
  match cs.dropWhile isCaseIgnorable with
  | c :: _ => isCased c
  | [] => false

def lowerSigma (before after : List Char) : Char :=
  if meetsCased before && !meetsCased after then 'ς' else 'σ'

/-- `before` holds what was read, nearest first. -/
def lowerFrom (before : List Char) : List Char → List Char
  | [] => []
  | c :: rest =>
    let here :=
      if c = 'Σ' then [lowerSigma before rest]
      else if c = 'İ' then ['i', Char.ofNat 0x307]
      else [lowerChar c]
    here ++ lowerFrom (c :: before) rest

def lower (cs : List Char) : List Char := lowerFrom [] cs

end PeerTracker.LowerCase
