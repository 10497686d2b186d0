import PeerTracker.Backup
import PeerTracker.Proofs.Tables

/-!
# Saves that are cut short

A save is made in steps, and each may fail or be the last before a crash. All steps but the
last change nothing but the temporary file (`Step.Within`), whatever becomes of them, and the
last is made in full or not at all. So a save leaves at its target either what was there or
its whole content (`Attempt.read_perform`), and what is found after any number of saves is the
content of the last that came to its end.
-/

namespace PeerTracker

namespace Disk

variable {d d' : Disk} {p q : Path}

/-! ## What is found -/

theorem node?_put_self (d : Disk) (hp : p ≠ []) (content : Bytes) :
    (d.put p content).node? p = some (.file content) := by
  rw [node?, if_neg hp]
  exact Table.get?_insert_self _ _ _

theorem node?_put_of_ne (d : Disk) (content : Bytes) (h : q ≠ p) :
    (d.put p content).node? q = d.node? q := by
  unfold node?
  split
  · rfl
  · exact Table.get?_insert_of_ne _ _ h

theorem node?_erase_of_ne (d : Disk) (h : q ≠ p) : node? ⟨d.nodes.erase p⟩ q = d.node? q := by
  unfold node?
  split
  · rfl
  · exact (Table.get?_erase _ _ _).trans (if_neg h)

/-- A file is found in a directory. -/
theorem read_eq_ok_iff {content : Bytes} :
    d.read p = .ok content ↔ d.enter p.dropLast = .ok () ∧ d.node? p = some (.file content) := by
  unfold read
  cases d.enter p.dropLast with
  | error e => simp [bind, Except.bind]
  | ok _ =>
      rcases d.node? p with - | (found | -) <;>
        simp [bind, Except.bind, pure, Except.pure]

/-- Only the file and its directory matter to a reader. -/
theorem read_congr (hdirectory : d'.node? p.dropLast = d.node? p.dropLast)
    (hfile : d'.node? p = d.node? p) : d'.read p = d.read p := by
  rw [read, read, enter, enter, hdirectory, hfile]

/-! ## Single steps -/

theorem apply_create_eq_ok_iff :
    d.apply (.create p) = .ok d' ↔
      d.enter p.dropLast = .ok () ∧ d.node? p ≠ some .directory ∧ d' = d.put p [] := by
  simp only [apply]
  cases d.enter p.dropLast with
  | error e => simp [bind, Except.bind]
  | ok _ =>
      rcases d.node? p with - | (found | -) <;>
        simp [bind, Except.bind, pure, Except.pure, eq_comm]

theorem apply_rename_eq_ok_iff :
    d.apply (.rename p q) = .ok d' ↔
      ∃ content, d.read p = .ok content ∧ d.node? q ≠ some .directory ∧
        d' = Disk.put ⟨d.nodes.erase p⟩ q content := by
  simp only [apply]
  cases d.read p with
  | error e => simp [bind, Except.bind]
  | ok _ =>
      rcases d.node? q with - | (found | -) <;>
        simp [bind, Except.bind, pure, Except.pure, eq_comm]

/-- The step changes nothing but this file. -/
def Step.Within (p : Path) : Step → Prop
  | .create q => q = p
  | .write q _ => q = p
  | .sync _ => True
  | .rename _ _ => False

theorem node?_apply {step : Step} (hwithin : step.Within p) (h : d.apply step = .ok d')
    (hq : q ≠ p) : d'.node? q = d.node? q := by
  cases step with
  | create p' =>
      obtain rfl := hwithin
      obtain ⟨-, -, rfl⟩ := apply_create_eq_ok_iff.mp h
      exact node?_put_of_ne d [] hq
  | write p' content =>
      obtain rfl := hwithin
      cases h
      exact node?_put_of_ne d content hq
  | sync p' =>
      cases h
      rfl
  | rename old new => exact hwithin.elim

theorem node?_interrupted {step : Step} (hwithin : step.Within p) (written : Nat) (hq : q ≠ p) :
    (d.interrupted written step).node? q = d.node? q := by
  cases step with
  | write p' content =>
      obtain rfl := hwithin
      exact node?_put_of_ne d _ hq
  | _ => rfl

/-- A file that was renamed is found under its new name in the same directory. -/
theorem read_of_rename {old new : Path} {content : Bytes}
    (h : d.apply (.rename old new) = .ok d') (hold : d.node? old = some (.file content))
    (hparent : old.dropLast = new.dropLast) (hnew : new.dropLast ≠ old) :
    d'.read new = .ok content := by
  obtain ⟨found, hread, hdirectory, rfl⟩ := apply_rename_eq_ok_iff.mp h
  obtain ⟨henter, hfile⟩ := read_eq_ok_iff.mp hread
  obtain rfl : content = found := by
    rw [hold] at hfile
    cases hfile
    rfl
  have hnil : new ≠ [] := fun hnil => hdirectory (hnil ▸ rfl)
  have hne : new.dropLast ≠ new := by
    intro hsame
    have hlength := congrArg List.length hsame
    have hpos := List.length_pos_iff.mpr hnil
    rw [List.length_dropLast] at hlength
    omega
  refine read_eq_ok_iff.mpr ⟨?_, node?_put_self _ hnil content⟩
  rw [← henter, hparent, enter, enter, node?_put_of_ne _ _ hne, node?_erase_of_ne _ hnew]

/-! ## Runs -/

/-- The steps of a run that are made in full, the one before a crash included. -/
def made : List (Step × Luck) → Disk → List Step
  | [], _ => []
  | (step, luck) :: rest, d =>
    match luck, d.apply step with
    | .completes, .ok d' => step :: made rest d'
    | .crashesAfter, .ok _ => [step]
    | _, _ => []

/-- What becomes of a step, whatever was to follow it: the run goes on, or it ends after the
step or in it. -/
inductive Fate (step : Step) (luck : Luck) (d : Disk) : Prop
  | goesOn (d' : Disk) (applied : d.apply step = .ok d')
      (run_eq : ∀ rest, run ((step, luck) :: rest) d = run rest d')
      (made_eq : ∀ rest, made ((step, luck) :: rest) d = step :: made rest d')
  | endsAfter (d' : Disk) (applied : d.apply step = .ok d')
      (run_eq : ∀ rest, run ((step, luck) :: rest) d = (.crashed, d'))
      (made_eq : ∀ rest, made ((step, luck) :: rest) d = [step])
  | endsIn (ending : Ending) (d' : Disk) (stopped : ending ≠ .finished)
      (left : d' = d ∨ ∃ written, d' = d.interrupted written step)
      (run_eq : ∀ rest, run ((step, luck) :: rest) d = (ending, d'))
      (made_eq : ∀ rest, made ((step, luck) :: rest) d = [])

theorem fate (step : Step) (luck : Luck) (d : Disk) : Fate step luck d := by
  cases luck with
  | fails written =>
      exact .endsIn (.failed .broken) _ nofun (.inr ⟨written, rfl⟩) (fun _ => rfl) (fun _ => rfl)
  | crashesDuring written =>
      exact .endsIn .crashed _ nofun (.inr ⟨written, rfl⟩) (fun _ => rfl) (fun _ => rfl)
  | completes =>
      cases happly : d.apply step with
      | error e =>
          exact .endsIn (.failed e) d nofun (.inl rfl) (by simp [run, happly])
            (by simp [made, happly])
      | ok d' => exact .goesOn d' happly (by simp [run, happly]) (by simp [made, happly])
  | crashesAfter =>
      cases happly : d.apply step with
      | error e =>
          exact .endsIn .crashed d nofun (.inl rfl) (by simp [run, happly]) (by simp [made, happly])
      | ok d' => exact .endsAfter d' happly (by simp [run, happly]) (by simp [made, happly])

/-- Whatever becomes of steps within one file, no other is changed. -/
theorem node?_run {steps : List (Step × Luck)} (h : ∀ x ∈ steps, x.1.Within p) (d : Disk)
    (hq : q ≠ p) : (run steps d).2.node? q = d.node? q := by
  induction steps generalizing d with
  | nil => rfl
  | cons x rest ih =>
      obtain ⟨step, luck⟩ := x
      obtain ⟨hwithin, hrest⟩ := List.forall_mem_cons.mp h
      cases fate step luck d with
      | goesOn d' applied run_eq =>
          rw [run_eq, ih hrest]
          exact node?_apply hwithin applied hq
      | endsAfter d' applied run_eq =>
          rw [run_eq]
          exact node?_apply hwithin applied hq
      | endsIn ending d' stopped left run_eq =>
          rw [run_eq]
          obtain rfl | ⟨written, rfl⟩ := left
          · rfl
          · exact node?_interrupted hwithin written hq

/-- A run in two parts: the second is made on the disk that the first has left, if that came
to its end, and not at all otherwise. -/
theorem run_append (front back : List (Step × Luck)) (d : Disk) :
    ((run front d).1 = .finished ∧ run (front ++ back) d = run back (run front d).2 ∧
      made (front ++ back) d = front.map Prod.fst ++ made back (run front d).2) ∨
    ((run front d).1 ≠ .finished ∧ run (front ++ back) d = run front d ∧
      made (front ++ back) d ⊆ front.map Prod.fst) := by
  induction front generalizing d with
  | nil => exact .inl ⟨rfl, rfl, rfl⟩
  | cons x rest ih =>
      obtain ⟨step, luck⟩ := x
      rw [List.cons_append, List.map_cons]
      cases fate step luck d with
      | goesOn d' applied run_eq made_eq =>
          rw [run_eq, run_eq, made_eq]
          obtain ⟨hfinished, hrun, hmade⟩ | ⟨hstopped, hrun, hmade⟩ := ih d'
          · exact .inl ⟨hfinished, hrun, by rw [hmade, List.cons_append]⟩
          · exact .inr ⟨hstopped, hrun, List.cons_subset_cons step hmade⟩
      | endsAfter d' applied run_eq made_eq =>
          rw [run_eq, run_eq, made_eq]
          exact .inr ⟨nofun, rfl, List.cons_subset_cons step (List.nil_subset _)⟩
      | endsIn ending d' stopped left run_eq made_eq =>
          rw [run_eq, run_eq, made_eq]
          exact .inr ⟨stopped, rfl, List.nil_subset _⟩

/-- A run that came to its end made every step. -/
theorem foldlM_of_finished {steps : List (Step × Luck)} (h : (run steps d).1 = .finished) :
    (steps.map Prod.fst).foldlM apply d = .ok (run steps d).2 := by
  induction steps generalizing d with
  | nil => rfl
  | cons x rest ih =>
      obtain ⟨step, luck⟩ := x
      cases fate step luck d with
      | goesOn d' applied run_eq =>
          rw [run_eq] at h ⊢
          rw [List.map_cons, List.foldlM_cons, applied]
          exact ih h
      | endsAfter d' applied run_eq =>
          rw [run_eq] at h
          cases h
      | endsIn ending d' stopped left run_eq =>
          rw [run_eq] at h
          exact absurd h stopped

end Disk

namespace Backup

open Disk

/-! ## One save -/

theorem dropLast_temporary (target : Path) : (temporary target).dropLast = target.dropLast :=
  List.dropLast_concat

theorem temporary_ne_nil (target : Path) : temporary target ≠ [] :=
  List.append_ne_nil_of_right_ne_nil _ (List.cons_ne_nil _ _)

theorem dropLast_ne_temporary (target : Path) : target.dropLast ≠ temporary target := by
  intro h
  have hlength := congrArg List.length h
  rw [temporary, List.length_append, List.length_singleton] at hlength
  omega

theorem temporary_ne (target : Path) : temporary target ≠ target := by
  obtain rfl | ⟨front, last, rfl⟩ := target.eq_nil_or_concat'
  · decide
  · intro h
    rw [temporary, List.dropLast_concat, List.append_cancel_left_eq, List.getLastD_concat] at h
    have hlength := congrArg String.length (List.singleton_inj.mp h)
    have hsuffix : ".tmp".length = 4 := by decide
    rw [String.length_append] at hlength
    omega

/-- A save, and what becomes of each of its steps. -/
structure Attempt where
  content : Bytes
  create : Luck
  write : Luck
  sync : Luck
  rename : Luck

namespace Attempt

/-- The steps up to the last. -/
def preparation (a : Attempt) (target : Path) : List (Step × Luck) :=
  [(.create (temporary target), a.create), (.write (temporary target) a.content, a.write),
    (.sync (temporary target), a.sync)]

def plan (a : Attempt) (target : Path) : List (Step × Luck) :=
  (steps target a.content).zip [a.create, a.write, a.sync, a.rename]

def perform (a : Attempt) (target : Path) (d : Disk) : Ending × Disk := run (a.plan target) d

/-- The rename takes place. -/
def Arrives (a : Attempt) (target : Path) (d : Disk) : Prop :=
  .rename (temporary target) target ∈ made (a.plan target) d

instance (a : Attempt) (target : Path) (d : Disk) : Decidable (a.Arrives target d) :=
  inferInstanceAs (Decidable (_ ∈ _))

variable (a : Attempt) (target : Path) (d : Disk)

theorem plan_eq : a.plan target =
    a.preparation target ++ [(.rename (temporary target) target, a.rename)] := rfl

theorem within_preparation : ∀ x ∈ a.preparation target, x.1.Within (temporary target) := by
  simp [preparation, Step.Within]

theorem rename_notMem_preparation :
    .rename (temporary target) target ∉ (a.preparation target).map Prod.fst := by
  simp [preparation]

theorem read_preparation : (run (a.preparation target) d).2.read target = d.read target :=
  read_congr (node?_run (a.within_preparation target) d (dropLast_ne_temporary target))
    (node?_run (a.within_preparation target) d (temporary_ne target).symm)

/-- The whole content waits beside the target when it comes to the rename. -/
theorem node?_preparation (h : (run (a.preparation target) d).1 = .finished) :
    (run (a.preparation target) d).2.node? (temporary target) = some (.file a.content) := by
  have happlied : (d.apply (.create (temporary target))).bind (fun d' => .ok
      (d'.put (temporary target) a.content)) = .ok (run (a.preparation target) d).2 :=
    foldlM_of_finished h
  cases hcreate : d.apply (.create (temporary target)) with
  | error e =>
      rw [hcreate] at happlied
      cases happlied
  | ok d' =>
      rw [hcreate] at happlied
      rw [← Except.ok.inj happlied]
      exact node?_put_self d' (temporary_ne_nil target) a.content

/-- A save leaves its content at the target, or ends early and leaves what was there. -/
theorem read_perform :
    (a.Arrives target d ∧ (a.perform target d).2.read target = .ok a.content) ∨
      (¬a.Arrives target d ∧ (a.perform target d).1 ≠ .finished ∧
        (a.perform target d).2.read target = d.read target) := by
  have hnot := a.rename_notMem_preparation target
  have hsame := a.read_preparation target d
  rw [Arrives, perform, plan_eq]
  obtain ⟨hfinished, hrun, hmade⟩ | ⟨hstopped, hrun, hmade⟩ := run_append (a.preparation target)
    [(.rename (temporary target) target, a.rename)] d
  · have hplaced : ∀ d', (run (a.preparation target) d).2.apply
        (.rename (temporary target) target) = .ok d' → d'.read target = .ok a.content :=
      fun d' applied => read_of_rename applied (a.node?_preparation target d hfinished)
        (dropLast_temporary target) (dropLast_ne_temporary target)
    rw [hrun, hmade, List.mem_append]
    cases fate (.rename (temporary target) target) a.rename (run (a.preparation target) d).2 with
    | goesOn d' applied run_eq made_eq =>
        rw [run_eq, made_eq]
        exact .inl ⟨.inr List.mem_cons_self, hplaced d' applied⟩
    | endsAfter d' applied run_eq made_eq =>
        rw [run_eq, made_eq]
        exact .inl ⟨.inr List.mem_cons_self, hplaced d' applied⟩
    | endsIn ending d' stopped left run_eq made_eq =>
        -- an interrupted rename changes nothing
        have hleft : d' = (run (a.preparation target) d).2 := left.elim id fun ⟨_, h⟩ => h
        rw [run_eq, made_eq, hleft]
        exact .inr ⟨fun h => h.elim hnot nofun, stopped, hsame⟩
  · rw [hrun]
    exact .inr ⟨fun h => hnot (hmade h), hstopped, hsame⟩

end Attempt

/-! ## Saves one after the other -/

/-- The disk after saves, each made on what the one before has left. -/
def after (target : Path) (saves : List Attempt) (d : Disk) : Disk :=
  saves.foldl (fun d a => (a.perform target d).2) d

/-- The contents whose rename took place, in their order. -/
def arrived (target : Path) : List Attempt → Disk → List Bytes
  | [], _ => []
  | a :: rest, d =>
    (if a.Arrives target d then [a.content] else []) ++ arrived target rest (a.perform target d).2

theorem after_concat (target : Path) (saves : List Attempt) (a : Attempt) (d : Disk) :
    after target (saves ++ [a]) d = (a.perform target (after target saves d)).2 :=
  List.foldl_concat _ _ _ _

theorem arrived_concat (target : Path) (saves : List Attempt) (a : Attempt) (d : Disk) :
    arrived target (saves ++ [a]) d = arrived target saves d ++
      if a.Arrives target (after target saves d) then [a.content] else [] := by
  induction saves generalizing d with
  | nil => exact List.append_nil _
  | cons b rest ih =>
      rw [List.cons_append, arrived, ih, arrived, List.append_assoc]
      rfl

/-- At the target is what arrived last, or what was there before. -/
theorem read_after (target : Path) (saves : List Attempt) (d : Disk) :
    (after target saves d).read target = match (arrived target saves d).getLast? with
      | some content => .ok content
      | none => d.read target := by
  induction saves using List.reverseRecOn with
  | nil => rfl
  | append_singleton saves a ih =>
      rw [after_concat, arrived_concat]
      obtain ⟨harrives, hread⟩ | ⟨hlost, -, hread⟩ := a.read_perform target (after target saves d)
      · rw [if_pos harrives, List.getLast?_concat]
        exact hread
      · rw [if_neg hlost, List.append_nil]
        exact hread.trans ih

/-- A save that comes to its end is the last that arrived. -/
theorem getLast?_arrived_of_finished {target : Path} {saves : List Attempt} {a : Attempt} {d : Disk}
    (h : (a.perform target (after target saves d)).1 = .finished) :
    (arrived target (saves ++ [a]) d).getLast? = some a.content := by
  obtain ⟨harrives, -⟩ | ⟨-, hstopped, -⟩ := a.read_perform target (after target saves d)
  · rw [arrived_concat, if_pos harrives, List.getLast?_concat]
  · exact absurd h hstopped

/-- A save on a disk that makes no trouble of its own. -/
def Attempt.smooth (content : Bytes) : Attempt :=
  ⟨content, .completes, .completes, .completes, .completes⟩

theorem save_eq (text : String) (content : Bytes) (d : Disk) :
    let out := (Attempt.smooth content).perform (.ofText text) d
    ((Backup.file text).save content d).2 = out.2 ∧
      (((Backup.file text).save content d).1 = .ok () ↔ out.1 = .finished) := by
  intro out
  have hrun : run ((steps (.ofText text) content).map (·, .completes)) d = out := rfl
  rw [save, Disk.perform, hrun]
  rcases out with ⟨- | e | -, d'⟩ <;> simp

/-- Such a save comes to its end if the directory is there and no other is in the way. -/
theorem smooth_finished {target : Path} {d : Disk} (content : Bytes)
    (henter : d.enter target.dropLast = .ok ())
    (htemporary : d.node? (temporary target) ≠ some .directory)
    (htarget : d.node? target ≠ some .directory) :
    ((Attempt.smooth content).perform target d).1 = .finished := by
  have hcreate : d.apply (.create (temporary target)) = .ok (d.put (temporary target) []) :=
    apply_create_eq_ok_iff.mpr ⟨(dropLast_temporary target).symm ▸ henter, htemporary, rfl⟩
  let written := (d.put (temporary target) []).put (temporary target) content
  have hother : ∀ p ≠ temporary target, written.node? p = d.node? p := fun p hp =>
    (node?_put_of_ne _ content hp).trans (node?_put_of_ne d [] hp)
  have hread : written.read (temporary target) = .ok content := by
    refine read_eq_ok_iff.mpr ⟨?_, node?_put_self _ (temporary_ne_nil target) content⟩
    rw [dropLast_temporary, enter, hother _ (dropLast_ne_temporary target)]
    exact henter
  have hrename : written.apply (.rename (temporary target) target) = .ok _ :=
    apply_rename_eq_ok_iff.mpr ⟨content, hread, by rwa [hother _ (temporary_ne target).symm], rfl⟩
  have hwrite : (d.put (temporary target) []).apply (.write (temporary target) content) =
      .ok written := rfl
  have hsync : written.apply (.sync (temporary target)) = .ok written := rfl
  show (run [(_, .completes), (_, .completes), (_, .completes), (_, .completes)] d).1 = .finished
  simp only [Attempt.smooth, run, hcreate, hwrite, hsync, hrename]

/-- **A good snapshot is never damaged.** Let saves follow each other, in each of which every
step may complete, fail or be cut short by a crash, and let a write that does not complete
leave any front part of its content in the temporary file. What is loaded afterwards is the
whole content of the last save whose rename took place; without any it is what was loaded
before, and nothing if there was nothing. A save that comes to its end, in particular one
that reports success, is this last save, and one that meets no trouble does, as long as the
directory is there and no directory has the name of either file. -/
theorem good_snapshot_is_never_damaged (text : String) (saves : List Attempt) (d : Disk) :
    let target := Path.ofText text
    let later := after target saves d
    ((Backup.file text).load later = match (arrived target saves d).getLast? with
      | some content => .ok (some content)
      | none => (Backup.file text).load d) ∧
    ((Backup.file text).load d = .ok none →
      (Backup.file text).load later = .ok (arrived target saves d).getLast?) ∧
    (∀ a : Attempt, (a.perform target later).1 = .finished →
      (arrived target (saves ++ [a]) d).getLast? = some a.content) ∧
    ∀ content,
      let out := (Backup.file text).save content later
      out.2 = after target (saves ++ [.smooth content]) d ∧
        (out.1 = .ok () →
          (arrived target (saves ++ [.smooth content]) d).getLast? = some content) ∧
        (later.enter target.dropLast = .ok () →
          later.node? (temporary target) ≠ some .directory →
          later.node? target ≠ some .directory → out.1 = .ok ()) := by
  intro target later
  have hload : (Backup.file text).load later = match (arrived target saves d).getLast? with
      | some content => .ok (some content)
      | none => (Backup.file text).load d := by
    simp only [load, later, target, read_after]
    cases (arrived target saves d).getLast? <;> rfl
  refine ⟨hload, fun hnone => ?_, fun a => getLast?_arrived_of_finished, fun content => ?_⟩
  · rw [hload, hnone]
    cases (arrived target saves d).getLast? <;> rfl
  · obtain ⟨hdisk, hok⟩ := save_eq text content later
    refine ⟨hdisk.trans (after_concat target saves _ d).symm, fun h => ?_, ?_⟩
    · exact getLast?_arrived_of_finished (hok.mp h)
    · exact fun henter htemporary htarget =>
        hok.mpr (smooth_finished content henter htemporary htarget)

/-- After a save that came to its end, one breaks off in its write, one is cut short by a
crash as soon as its file has been made, and one by a crash in its rename. -/
theorem good_snapshot_is_never_damaged_three_troubles :
    let first := Attempt.smooth [1, 2, 3, 4]
    let saves := [first, ⟨[5, 6, 7, 8], .completes, .fails 3, .completes, .completes⟩,
      ⟨[9], .crashesAfter, .completes, .completes, .completes⟩,
      ⟨[9, 9], .completes, .completes, .completes, .crashesDuring 1⟩]
    let later := after ["s"] saves {}
    (Backup.file "s").load {} = .ok none ∧
      (Backup.file "s").load later = .ok (some [1, 2, 3, 4]) ∧
      later.node? ["s.tmp"] = some (.file [9, 9]) := by
  intro first saves later
  have hsplit : "s".splitOn "/" = ["s"] := by
    rw [String.splitOn, if_neg (by decide), String.splitOnAux, if_neg (by decide),
      if_neg (by decide), String.splitOnAux, if_pos (by decide)]
    decide +kernel
  have htarget : Path.ofText "s" = ["s"] := by
    rw [Path.ofText, if_neg (by decide), hsplit]
    decide
  have hnone : (Backup.file "s").load {} = .ok none := by
    rw [load, htarget]
    rfl
  obtain ⟨-, hload, -⟩ := good_snapshot_is_never_damaged "s" saves {}
  have harrived : (arrived ["s"] saves {}).getLast? = some [1, 2, 3, 4] := by decide +kernel
  rw [htarget, harrived] at hload
  exact ⟨hnone, hload hnone, by decide +kernel⟩

end Backup

end PeerTracker
