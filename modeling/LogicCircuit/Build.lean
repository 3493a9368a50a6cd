/-!
# Builds

The program can be built with overflow checks or without. An addition that leaves 64 bits stops a build with
checks, and wraps around in a build without them. The counter of the error codes is the one sum that a caller
can bring that far.
-/

namespace LogicCircuit

inductive Build where
  /-- A build with overflow checks. -/
  | checked
  /-- A build without them, such as one for release. -/
  | wrapping
  deriving Repr, DecidableEq

/-- What stops the program. -/
inductive Panic where
  | addOverflow
  deriving Repr, DecidableEq

def Panic.message : Panic → String
  | addOverflow => "attempt to add with overflow"

/-- The sum of two 64-bit numbers. -/
def Build.add : Build → UInt64 → UInt64 → Except Panic UInt64
  | checked, a, b => if a.toNat + b.toNat < UInt64.size then .ok (a + b) else .error .addOverflow
  | wrapping, a, b => .ok (a + b)

namespace Build

variable {build : Build} {a b sum : UInt64}

@[simp] theorem add_zero (build : Build) (a : UInt64) : build.add a 0 = .ok a := by
  cases build with
  | checked =>
    have hlt := a.toNat_lt
    rw [add, if_pos (by simpa using hlt), UInt64.add_zero]
  | wrapping => rw [add, UInt64.add_zero]

/-- A sum that is answered is the sum modulo `2 ^ 64`, whatever the build. -/
theorem eq_of_add_eq_ok (h : build.add a b = .ok sum) : sum = a + b := by
  cases build with
  | checked =>
    rw [add] at h
    split at h
    · cases h
      rfl
    · cases h
  | wrapping =>
    cases h
    rfl

end Build

end LogicCircuit
