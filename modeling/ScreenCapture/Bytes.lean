namespace ScreenCapture

abbrev Bytes (n : Nat) := { bytes : ByteArray // bytes.size = n }

namespace Bytes

variable (f : Nat → UInt8)

theorem size_fold_push (n : Nat) (bytes : ByteArray) :
    (n.fold (fun i _ bytes ↦ bytes.push (f i)) bytes).size = bytes.size + n := by
  induction n with
  | zero => rfl
  | succ n ih => rw [Nat.fold_succ, ByteArray.size_push, ih]; rfl

def build (n : Nat) : Bytes n :=
  ⟨n.fold (fun i _ bytes ↦ bytes.push (f i)) (ByteArray.emptyWithCapacity n), by
    rw [size_fold_push]
    exact Nat.zero_add n⟩

end Bytes

end ScreenCapture
