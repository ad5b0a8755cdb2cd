import DialogueQuery.Text.CodePoint

/-! The characters of a text are read back as the code points that they stand for. A
text stands for its own characters where none of them is the mark of a half. -/

namespace DialogueQuery

namespace CodePoint

theorem decode_cons {c : Char} (h : c ≠ mark) (cs : List Char) :
    decode (c :: cs) = char c :: decode cs := by
  cases cs with
  | nil => rfl
  | cons d rest => rw [decode, if_pos h]

theorem decode_encode_append (c : Char) (rest : List Char) :
    decode ((char c).encode ++ rest) = char c :: decode rest := by
  by_cases h : c = mark
  · subst h
    simp [encode, decode]
  · simp [encode, h, decode_cons h]

theorem decode_flatMap_encode (cs : List Char) :
    decode ((cs.map char).flatMap encode) = cs.map char := by
  induction cs with
  | nil => rfl
  | cons c cs ih => rw [List.map_cons, List.flatMap_cons, decode_encode_append, ih]

/-- None of the characters stands before one that stands for a half. -/
def Unmarked (cs : List Char) : Prop := ∀ c ∈ cs, c ≠ mark

/-- Characters without a mark before a text stand for themselves. -/
theorem decode_append {cs : List Char} (h : Unmarked cs) (rest : List Char) :
    decode (cs ++ rest) = cs.map char ++ decode rest := by
  induction cs with
  | nil => rfl
  | cons c cs ih =>
    obtain ⟨hc, hcs⟩ := List.forall_mem_cons.mp h
    rw [List.cons_append, decode_cons hc, ih hcs]
    rfl

namespace Unmarked

variable {cs ds : List Char}

theorem append (hc : Unmarked cs) (hd : Unmarked ds) : Unmarked (cs ++ ds) :=
  List.forall_mem_append.mpr ⟨hc, hd⟩

theorem cons {c : Char} (hc : c ≠ mark) (hcs : Unmarked cs) : Unmarked (c :: cs) :=
  List.forall_mem_cons.mpr ⟨hc, hcs⟩

theorem mono (hd : Unmarked ds) (h : cs ⊆ ds) : Unmarked cs := fun c hc => hd c (h hc)

theorem replicate {c : Char} (hc : c ≠ mark) (n : Nat) : Unmarked (List.replicate n c) := by
  intro d hd
  rwa [List.eq_of_mem_replicate hd]

theorem of_all (h : cs.all (· != mark) = true) : Unmarked cs :=
  fun c hc => bne_iff_ne.mp (List.all_eq_true.mp h c hc)

/-- A text that is written out meets this with `cs` its characters. -/
theorem ofList (h : cs.all (· != mark) = true) : Unmarked (String.ofList cs).toList := by
  rw [String.toList_ofList]
  exact .of_all h

theorem toDigits {b : Nat} (hb : 1 < b) (n : Nat) : Unmarked (Nat.toDigits b n) := by
  have hdigit (n : Nat) : n.digitChar ≠ mark := Nat.digitChar_ne mark (by decide)
  induction n using Nat.strongRecOn with
  | _ n ih =>
    rw [Nat.toDigits_eq_if hb]
    split
    · exact .cons (hdigit n) nofun
    · have hlt : n / b < n := Nat.div_lt_self (by omega) hb
      exact (ih (n / b) hlt).append (.cons (hdigit _) nofun)

theorem toString (n : Int) : Unmarked (toString n).toList := by
  have hnat (m : Nat) : Unmarked (ToString.toString m).toList := by
    rw [Nat.toString_eq_ofList_toDigits, String.toList_ofList]
    exact .toDigits (by decide) m
  cases n with
  | ofNat m => exact hnat m
  | negSucc m =>
    change Unmarked ("-" ++ ToString.toString (m + 1)).toList
    rw [String.toList_append]
    exact .append (.ofList rfl) (hnat (m + 1))

theorem intercalate {separator : String} (hs : Unmarked separator.toList) {texts : List String}
    (h : ∀ t ∈ texts, Unmarked t.toList) : Unmarked (separator.intercalate texts).toList := by
  induction texts with
  | nil => nofun
  | cons t rest ih =>
    obtain ⟨ht, hrest⟩ := List.forall_mem_cons.mp h
    cases rest with
    | nil => rwa [String.intercalate_singleton]
    | cons u rest =>
      rw [String.intercalate_cons_cons, String.toList_append, String.toList_append]
      exact .append (.append ht hs) (ih hrest)

end Unmarked

end CodePoint

namespace Text

open CodePoint

theorem isWellFormed_ofChars (cs : List Char) : isWellFormed (ofChars cs) = true := by
  rw [isWellFormed, codePoints, ofChars, ofCodePoints, String.toList_ofList, decode_flatMap_encode]
  simp [char?]

/-- What is well-formed is settled by the rest if what comes first has no mark. -/
theorem isWellFormed_append {s : String} (h : Unmarked s.toList) (t : String) :
    isWellFormed (s ++ t) = isWellFormed t := by
  rw [isWellFormed, codePoints, String.toList_append, decode_append h, List.all_append]
  simp [isWellFormed, codePoints, char?]

theorem isWellFormed_of_unmarked {s : String} (h : Unmarked s.toList) : isWellFormed s = true := by
  have happend := isWellFormed_append h ""
  rw [String.append_empty] at happend
  rw [happend]
  rfl

theorem isWellFormed_ofList {cs : List Char} (h : cs.all (· != mark) = true) :
    isWellFormed (String.ofList cs) = true :=
  isWellFormed_of_unmarked (.ofList h)

end Text

end DialogueQuery
