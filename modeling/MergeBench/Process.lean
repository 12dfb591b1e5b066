import MergeBench.FileSystem.Basic

/-!
Starting a child process: what is asked for and what comes of it. How children behave is up to a
`Launcher`, which nothing in the library looks into.
-/

namespace MergeBench

structure Launch where
  words : List String
  directory : Location
  bindings : List (String × String)
  /-- Microseconds after which the child is stopped. -/
  limit : Option Nat
  redirect : Option Location
  deriving DecidableEq, Repr

inductive Ending where
  | refused (e : FileError)
  | overran
  | exited (status : Nat)
  | signalled (number : Nat)
  deriving DecidableEq, Repr

structure ChildRun where
  ending : Ending
  stdout : Bytes
  stderr : Bytes
  /-- The files after the child, without what it wrote to a redirected standard output. -/
  files : FileSystem
  elapsed : Nat
  deriving Repr

abbrev Launcher := Launch → FileSystem → ChildRun

/-- The status that a shell reports: a child stopped by signal `n`, counted as `-n`, has `128 + n`. -/
def shellStatus (code : Int) : Int :=
  if code < 0 then 128 - code else code

theorem shellStatus_eq_zero_iff (code : Int) : shellStatus code = 0 ↔ code = 0 := by
  unfold shellStatus
  split <;> omega

end MergeBench
