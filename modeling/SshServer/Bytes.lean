/-!
Contract: byte strings, beyond what every program has of them.

Owns: the decision whether two byte strings are the same, which every type that holds one relies on,
and the length of several together.
Does not own: what the bytes mean.
-/

namespace SshServer

instance instDecidableEqBytes : DecidableEq ByteArray :=
  ByteArray.instDecidableEq

def bytesIn : List ByteArray → Nat
  | [] => 0
  | first :: rest => first.size + bytesIn rest

@[simp] theorem bytesIn_append (first second : List ByteArray) :
    bytesIn (first ++ second) = bytesIn first + bytesIn second := by
  induction first with
  | nil => simp [bytesIn]
  | cons head tail ih => simp [bytesIn, ih, Nat.add_assoc]

end SshServer
