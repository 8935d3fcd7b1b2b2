/-!
# Transaction numbers

The transactions of a session are numbered from 1 in the order in which they
are started; after the greatest number comes 1 again, so 0 is never given.

* `advance_last_ne_zero` — a number that was given is not zero;
* `last?_eq_none_iff` — there is no last number just as long as none was
  given.
-/

namespace PictureTransfer

/-- The number given last, zero when none was. -/
structure Counter where
  last : UInt32 := 0
  deriving DecidableEq, Repr

namespace Counter

/-- Gives out the next number, which is the last one from then on. -/
def advance (c : Counter) : Counter := ⟨if c.last = 0xFFFFFFFF then 1 else c.last + 1⟩

/-- The number given last, if one was. -/
def last? (c : Counter) : Option UInt32 := if c.last = 0 then none else some c.last

theorem advance_last_ne_zero (c : Counter) : c.advance.last ≠ 0 := by
  unfold advance
  intro h
  split at h
  · exact absurd h (by decide)
  · rename_i hne
    apply hne
    apply UInt32.toNat_inj.mp
    have hsum := congrArg UInt32.toNat h
    have hlt := c.last.toNat_lt
    simp only [UInt32.toNat_add, UInt32.reduceToNat] at hsum ⊢
    omega

theorem last?_eq_none_iff (c : Counter) : c.last? = none ↔ c.last = 0 := by
  unfold last?
  split <;> simp_all

/-- Below the greatest number, numbers go up by one. -/
theorem advance_last_toNat {c : Counter} (h : c.last.toNat + 1 < UInt32.size) :
    c.advance.last.toNat = c.last.toNat + 1 := by
  have hne : c.last ≠ 0xFFFFFFFF := by
    intro heq
    rw [heq] at h
    simp at h
  rw [advance, if_neg hne]
  simp only [UInt32.toNat_add, UInt32.reduceToNat]
  simp only [UInt32.size] at h
  omega

end Counter

end PictureTransfer
