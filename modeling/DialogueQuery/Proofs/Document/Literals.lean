import DialogueQuery.Document.Literal
import DialogueQuery.Proofs.Text.CodePoints

/-! The written form of a document escapes the lone halves in its texts, so a message
that shows it can be sent. Identifiers made by a store stand in it as they are. -/

namespace DialogueQuery

open CodePoint

namespace Text

theorem unmarked_hexPadded (width n : Nat) : Unmarked (hexPadded width n) :=
  (Unmarked.replicate (by decide) _).append (.toDigits (by decide) n)

theorem unmarked_escapedCodePoint (n : Nat) : Unmarked (escapedCodePoint n) := by
  unfold escapedCodePoint
  split
  · exact .cons (by decide) (.cons (by decide) (unmarked_hexPadded 2 n))
  · split
    · exact .cons (by decide) (.cons (by decide) (unmarked_hexPadded 4 n))
    · exact .cons (by decide) (.cons (by decide) (unmarked_hexPadded 8 n))

theorem isPrintable_mark : isPrintable mark = false := by decide +kernel

theorem unmarked_quotedChar {quote : Char} (hq : quote ≠ mark) (c : Char) :
    Unmarked (quotedChar quote c) := by
  fun_cases quotedChar quote c with
  | case1 hc =>
    have hne : c ≠ mark := by
      rcases hc with rfl | rfl
      · exact hq
      · decide
    exact .cons (by decide) (.cons hne nofun)
  | case2 | case3 | case4 => exact .of_all rfl
  | case5 _ _ _ _ hp =>
    refine .cons ?_ nofun
    rintro rfl
    rw [isPrintable_mark] at hp
    cases hp
  | case6 => exact unmarked_escapedCodePoint _

theorem unmarked_quoted (s : String) : Unmarked (quoted s).toList := by
  have hq : quoteFor s ≠ mark := by
    unfold quoteFor
    split <;> decide
  rw [quoted, String.toList_ofList]
  refine .append (.cons hq fun c hc => ?_) (.cons hq nofun)
  obtain ⟨p, -, hp⟩ := List.mem_flatMap.mp hc
  cases p with
  | char d => exact unmarked_quotedChar hq d c hp
  | half unit => exact unmarked_escapedCodePoint unit c hp

end Text

namespace Binary64

theorem unmarked_scientific (d : Decimal) : Unmarked (scientific d).1 := by
  simp only [scientific]
  split
  · exact .of_all rfl
  · refine (Unmarked.toDigits (b := 10) (by decide) d.digits).mono fun c hc => ?_
    exact List.mem_reverse.mp ((List.dropWhile_sublist _).subset (List.mem_reverse.mp hc))

theorem unmarked_layout {digits : List Char} (h : Unmarked digits) (top : Int) :
    Unmarked (layout digits top).toList := by
  have hzero : '0' ≠ mark := by decide
  simp only [layout, String.toList_ofList]
  split
  · split
    · exact .append (.append (.of_all rfl) (.replicate hzero _)) h
    · have hpadded (n : Nat) := h.append (.replicate hzero n)
      refine .append (.append ((hpadded _).mono (List.take_subset _ _)) (.of_all rfl)) ?_
      split
      · exact .of_all rfl
      · exact (hpadded _).mono (List.drop_subset _ _)
  · refine .append (.append ?_ ?_) ?_
    · split
      · nofun
      · exact h
      · next d rest _ =>
        obtain ⟨hd, hrest⟩ := List.forall_mem_cons.mp h
        exact .cons hd (.cons (by decide) hrest)
    · split <;> exact .of_all rfl
    · have hexponent := Unmarked.toDigits (b := 10) (by decide) top.natAbs
      rw [Nat.toString_eq_ofList_toDigits, String.toList_ofList]
      split
      · exact .cons hzero hexponent
      · exact hexponent

/-- Numbers are shown without the mark. -/
theorem unmarked_text (x : Binary64) : Unmarked x.text.toList := by
  cases x with
  | nan => exact .ofList rfl
  | infinite negative => cases negative <;> exact .ofList rfl
  | finite negative m e =>
    have hbody : Unmarked (if m = 0 then "0.0" else
        layout (scientific (shortest m e)).1 (scientific (shortest m e)).2).toList := by
      split
      · exact .ofList rfl
      · exact unmarked_layout (unmarked_scientific _) _
    simp only [text]
    split
    · rw [String.toList_append]
      exact .append (.ofList rfl) hbody
    · exact hbody

end Binary64

namespace Document

mutual

/-- No identifier made by a store is in it. -/
def isIdFree : Document → Bool
  | objectId _ => false
  | arr items => areIdFree items
  | obj members => membersAreIdFree members
  | _ => true

def areIdFree : List Document → Bool
  | [] => true
  | d :: ds => d.isIdFree && areIdFree ds

def membersAreIdFree : List (String × Document) → Bool
  | [] => true
  | (_, d) :: rest => d.isIdFree && membersAreIdFree rest

end

mutual

/-- The literal of a value without store identifiers is free of the mark, which is escaped where a
text has it. -/
theorem unmarked_literal : (d : Document) → d.isIdFree = true → Unmarked d.literal.toList
  | .null, _ => .ofList rfl
  | .bool true, _ => .ofList rfl
  | .bool false, _ => .ofList rfl
  | .int n, _ => .toString n
  | .float x, _ => x.unmarked_text
  | .str s, _ => Text.unmarked_quoted s
  | .objectId _, h => nomatch h
  | .arr items, h => by
    have hcomma : Unmarked ", ".toList := .ofList rfl
    have hitems := hcomma.intercalate (unmarked_literals items h)
    rw [literal, String.toList_append, String.toList_append]
    exact .append (.append (.ofList rfl) hitems) (.ofList rfl)
  | .obj members, h => by
    have hcomma : Unmarked ", ".toList := .ofList rfl
    have hmembers := hcomma.intercalate (unmarked_memberLiterals members h)
    rw [literal, String.toList_append, String.toList_append]
    exact .append (.append (.ofList rfl) hmembers) (.ofList rfl)

theorem unmarked_literals : (ds : List Document) → areIdFree ds = true →
    ∀ t ∈ literals ds, Unmarked t.toList
  | [], _ => nofun
  | d :: ds, h => by
    obtain ⟨hd, hds⟩ := Bool.and_eq_true_iff.mp h
    exact List.forall_mem_cons.mpr ⟨unmarked_literal d hd, unmarked_literals ds hds⟩

theorem unmarked_memberLiterals : (ms : List (String × Document)) → membersAreIdFree ms = true →
    ∀ t ∈ memberLiterals ms, Unmarked t.toList
  | [], _ => nofun
  | (k, d) :: rest, h => by
    obtain ⟨hd, hrest⟩ := Bool.and_eq_true_iff.mp h
    refine List.forall_mem_cons.mpr ⟨?_, unmarked_memberLiterals rest hrest⟩
    rw [String.toList_append, String.toList_append]
    exact .append (.append (Text.unmarked_quoted k) (.ofList rfl)) (unmarked_literal d hd)

end

end Document

end DialogueQuery
