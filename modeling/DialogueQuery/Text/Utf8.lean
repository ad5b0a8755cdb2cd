/-! Reading and writing UTF-8. Bytes that are no UTF-8 read as the replacement
character, one for each longest start of a character. -/

namespace DialogueQuery.Text.Utf8

def replacement : Char := '\ufffd'

/-- How many bytes follow a first byte, the bits it contributes, and the range
of the byte after it. -/
def lead? (b : Nat) : Option (Nat × Nat × Nat × Nat) :=
  if b < 0x80 then some (0, b, 0x80, 0xbf)
  else if 0xc2 ≤ b ∧ b ≤ 0xdf then some (1, b - 0xc0, 0x80, 0xbf)
  else if b = 0xe0 then some (2, 0, 0xa0, 0xbf)
  else if b = 0xed then some (2, 0xd, 0x80, 0x9f)
  else if 0xe1 ≤ b ∧ b ≤ 0xef then some (2, b - 0xe0, 0x80, 0xbf)
  else if b = 0xf0 then some (3, 0, 0x90, 0xbf)
  else if 0xf1 ≤ b ∧ b ≤ 0xf3 then some (3, b - 0xf0, 0x80, 0xbf)
  else if b = 0xf4 then some (3, 4, 0x80, 0x8f)
  else none

/-- The code point that further bytes complete, if they do, and what is left. -/
def follow (count value low high : Nat) (bs : List Nat) : Option Nat × List Nat :=
  match count, bs with
  | 0, bs => (some value, bs)
  | _ + 1, [] => (none, [])
  | n + 1, b :: rest =>
    if low ≤ b ∧ b ≤ high then follow n (value * 64 + b % 64) 0x80 0xbf rest else (none, b :: rest)

theorem length_follow_le (count value low high : Nat) (bs : List Nat) :
    (follow count value low high bs).2.length ≤ bs.length := by
  induction bs generalizing count value low high with
  | nil => cases count <;> simp [follow]
  | cons b rest ih =>
    cases count with
    | zero => simp [follow]
    | succ n =>
      simp only [follow]
      split
      · exact Nat.le_succ_of_le (ih ..)
      · simp

/-- Bytes as characters, and between them the longest starts of characters that
nothing completes. -/
def parts : List Nat → List (Except (List Nat) Char)
  | [] => []
  | b :: rest =>
    match lead? b with
    | none => .error [b] :: parts rest
    | some (count, value, low, high) =>
      let completed := follow count value low high rest
      let start := b :: rest.take (rest.length - completed.2.length)
      completed.1.elim (.error start) (fun n => .ok (Char.ofNat n)) :: parts completed.2
termination_by bs => bs.length
decreasing_by
  · simp
  · exact Nat.lt_succ_of_le (length_follow_le ..)

def decode (bs : List Nat) : List Char :=
  (parts bs).map fun p => p.toOption.getD replacement

def encodeChar (c : Char) : List Nat :=
  let n := c.toNat
  if n < 0x80 then [n]
  else if n < 0x800 then [0xc0 + n / 0x40, 0x80 + n % 0x40]
  else if n < 0x10000 then [0xe0 + n / 0x1000, 0x80 + n / 0x40 % 0x40, 0x80 + n % 0x40]
  else [0xf0 + n / 0x40000, 0x80 + n / 0x1000 % 0x40, 0x80 + n / 0x40 % 0x40, 0x80 + n % 0x40]

end DialogueQuery.Text.Utf8
