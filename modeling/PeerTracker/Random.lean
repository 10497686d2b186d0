/-!
# Random sources

A source answers each request for a number below a bound, and its answer may
depend on all the requests before. So a source is a function of the bounds asked
for so far, and asking adds one to them. A source is fair if it stays below every
positive bound. `ofList` takes its answers from a list, over and over.
-/

namespace PeerTracker

structure RandomSource where
  answer : List UInt64 → UInt64 → UInt64
  asked : List UInt64 := []

namespace RandomSource

def below (r : RandomSource) (bound : UInt64) : UInt64 × RandomSource :=
  (r.answer r.asked bound, { r with asked := r.asked ++ [bound] })

/-- Below every positive bound, whatever was asked before. -/
def Fair (r : RandomSource) : Prop :=
  ∀ asked bound, 0 < bound → r.answer asked bound < bound

/-- The values in turn, each reduced to its bound; a bound of zero takes none. -/
def ofList (values : List UInt64) : RandomSource where
  answer asked bound :=
    if values = [] ∨ bound = 0 then 0
    else values.getD ((asked.filter (· ≠ 0)).length % values.length) 0 % bound

instance : Inhabited RandomSource := ⟨ofList []⟩

theorem fair_ofList (values : List UInt64) : (ofList values).Fair := by
  intro asked bound h
  have hn : bound ≠ 0 := fun e => by simp [e] at h
  simp only [ofList]
  split
  · exact h
  · exact UInt64.mod_lt _ h

end RandomSource

end PeerTracker
