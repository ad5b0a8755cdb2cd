import Mathlib.Algebra.Group.Nat.Defs
import Mathlib.Data.List.Basic
import DialogueQuery.Calendar.Text
import DialogueQuery.Proofs.Text.CodePoints

/-! A date and time that is written is read back as it was, with its microseconds
and its distance from universal time. -/

namespace DialogueQuery

namespace DateTime

theorem foldl_digits (cs : List Char) (n : Nat) :
    cs.foldl (fun n c => n * 10 + (c.toNat - '0'.toNat)) n = Nat.ofDigitChars 10 cs n := by
  induction cs generalizing n with
  | nil => rfl
  | cons c cs ih => rw [List.foldl_cons, ih, Nat.ofDigitChars_cons, Nat.mul_comm]

theorem ofDigitChars_replicate (k : Nat) (cs : List Char) :
    Nat.ofDigitChars 10 (List.replicate k '0' ++ cs) 0 = Nat.ofDigitChars 10 cs 0 := by
  induction k with
  | zero => rfl
  | succ k ih => rw [List.replicate_succ, List.cons_append, Nat.ofDigitChars_cons]; exact ih

section

variable {width n : Nat}

theorem isDigit_of_mem_paddedDigits {c : Char} (hc : c ∈ paddedDigits width n) :
    c.isDigit = true := by
  rcases List.mem_append.mp hc with hc | hc
  · rw [(List.mem_replicate.mp hc).2]
    rfl
  · exact Nat.isDigit_of_mem_toDigits (by decide) (by decide) hc

variable (hw : 0 < width) (hn : n < 10 ^ width)
include hw hn

theorem length_paddedDigits : (paddedDigits width n).length = width := by
  have hle := (Nat.length_toDigits_le_iff (b := 10) (by decide) hw).mpr hn
  simp only [paddedDigits, List.length_append, List.length_replicate]
  omega

theorem number?_paddedDigits : number? (paddedDigits width n) = some n := by
  have hall : (paddedDigits width n).all Char.isDigit = true :=
    List.all_eq_true.mpr fun c hc => isDigit_of_mem_paddedDigits hc
  have hne : (paddedDigits width n).isEmpty = false := by
    have hl := length_paddedDigits hw hn
    cases h : paddedDigits width n with
    | nil => simp [h] at hl; omega
    | cons c cs => rfl
  have hvalue : Nat.ofDigitChars 10 (paddedDigits width n) 0 = n := by
    rw [paddedDigits, ofDigitChars_replicate]
    exact Nat.ofDigitChars_toDigits (by decide) (by decide)
  rw [number?, hall, hne, foldl_digits, hvalue]
  rfl

end

/-- Two digits, and the number that they write. -/
theorem paddedDigits_two {n : Nat} (hn : n < 100) :
    ∃ a b, paddedDigits 2 n = [a, b] ∧ number? [a, b] = some n := by
  obtain ⟨a, b, h⟩ := List.length_eq_two.mp (length_paddedDigits (by decide : 0 < 2) hn)
  exact ⟨a, b, h, h ▸ number?_paddedDigits (by decide) hn⟩

theorem paddedDigits_four {n : Nat} (hn : n < 10000) :
    ∃ a b c d, paddedDigits 4 n = [a, b, c, d] ∧ number? [a, b, c, d] = some n := by
  have hl := length_paddedDigits (by decide : 0 < 4) hn
  have hv := number?_paddedDigits (by decide : 0 < 4) hn
  match h : paddedDigits 4 n, hl with
  | [a, b, c, d], _ => exact ⟨a, b, c, d, rfl, h ▸ hv⟩

theorem readDateParts_dateChars (d : Date) (rest : List Char) :
    readDateParts (dateChars d ++ rest) = some ((d.year, d.month, d.day), rest) := by
  obtain ⟨⟨-, hyear⟩, hday⟩ := d.inCalendar
  have hmonth := hday
  unfold IsMonthDay at hmonth
  have hdays : daysInMonth d.year d.month ≤ 31 := by
    unfold daysInMonth
    split <;> (try split) <;> omega
  obtain ⟨a, b, c, e, hy, hy'⟩ := paddedDigits_four (by omega : d.year < 10000)
  obtain ⟨f, g, hm, hm'⟩ := paddedDigits_two (by omega : d.month < 100)
  obtain ⟨h, i, hd, hd'⟩ := paddedDigits_two (by omega : d.day < 100)
  simp [dateChars, hy, hm, hd, readDateParts, hy', hm', hd', hday]

def fractionChars (microsecond : Nat) : List Char :=
  if microsecond = 0 then [] else '.' :: paddedDigits 6 microsecond

theorem timeChars_eq (t : TimeOfDay) (rest : List Char) :
    ∃ a b c d e f, timeChars t ++ rest =
        a :: b :: ':' :: c :: d :: ':' :: e :: f :: (fractionChars t.microsecond ++ rest) ∧
      number? [a, b] = some t.hour ∧ number? [c, d] = some t.minute ∧
      number? [e, f] = some t.second := by
  obtain ⟨hhour, hminute, hsecond, -⟩ := t.inDay
  obtain ⟨a, b, hh, hh'⟩ := paddedDigits_two (by omega : t.hour < 100)
  obtain ⟨c, d, hm, hm'⟩ := paddedDigits_two (by omega : t.minute < 100)
  obtain ⟨e, f, hs, hs'⟩ := paddedDigits_two (by omega : t.second < 100)
  exact ⟨a, b, c, d, e, f, by simp [timeChars, hh, hm, hs, fractionChars], hh', hm', hs'⟩

theorem takeWhile_offsetChars (offset : Option Int) :
    (offsetChars offset).takeWhile Char.isDigit = [] := by
  cases offset with
  | none => rfl
  | some minutes =>
    by_cases h : minutes < 0 <;> simp [offsetChars, h]

/-- A fraction is written only where it is not zero, and otherwise read as zero. -/
theorem readFraction_fractionChars {microsecond : Nat} (h : microsecond < 1000000)
    (offset : Option Int) :
    readFraction (fractionChars microsecond ++ offsetChars offset) =
      some (microsecond, offsetChars offset) := by
  by_cases hz : microsecond = 0
  · subst hz
    cases offset with
    | none => rfl
    | some minutes =>
      by_cases h : minutes < 0 <;> simp [fractionChars, offsetChars, readFraction, h]
  · have hl := length_paddedDigits (by decide : 0 < 6) h
    have hv := number?_paddedDigits (by decide : 0 < 6) h
    have htake : (paddedDigits 6 microsecond ++ offsetChars offset).takeWhile Char.isDigit =
        paddedDigits 6 microsecond := by
      rw [List.takeWhile_append_of_pos fun c hc => isDigit_of_mem_paddedDigits hc,
        takeWhile_offsetChars, List.append_nil]
    have hne : paddedDigits 6 microsecond ≠ [] := fun hnil => by simp [hnil] at hl
    have hsix (zeros : List Char) : (paddedDigits 6 microsecond ++ zeros).take 6 =
        paddedDigits 6 microsecond := List.take_left' hl
    have hdrop : (paddedDigits 6 microsecond ++ offsetChars offset).drop
        (paddedDigits 6 microsecond).length = offsetChars offset := List.drop_left
    simp [fractionChars, hz, readFraction, htake, hsix, hv, hne, hdrop]

/-- The distance from universal time is less than a day. -/
def hasZone (t : DateTime) : Bool := t.offset.all fun minutes => decide (minutes.natAbs < 1440)

theorem readOffset_offsetChars {offset : Option Int}
    (h : offset.all (fun minutes => decide (minutes.natAbs < 1440)) = true) :
    readOffset (offsetChars offset) = some offset := by
  cases offset with
  | none => rfl
  | some minutes =>
    obtain ⟨n, hn⟩ : ∃ n, minutes.natAbs = n := ⟨_, rfl⟩
    have hlt : n < 1440 := by simpa [hn] using h
    obtain ⟨a, b, hh, hh'⟩ := paddedDigits_two (by omega : n / 60 < 100)
    obtain ⟨c, d, hm, hm'⟩ := paddedDigits_two (by omega : n % 60 < 100)
    have hrange : n % 60 < 60 ∧ n / 60 * 60 + n % 60 < 1440 := by omega
    by_cases hneg : minutes < 0
    · simp [offsetChars, hneg, hn, hh, hm, readOffset, hh', hm', hrange]
      omega
    · simp [offsetChars, hneg, hn, hh, hm, readOffset, hh', hm', hrange]
      omega

theorem readTime_written (t : TimeOfDay) {offset : Option Int}
    (h : offset.all (fun minutes => decide (minutes.natAbs < 1440)) = true) :
    readTime (timeChars t ++ offsetChars offset) = some (t, offset) := by
  obtain ⟨a, b, c, d, e, f, hchars, hhour, hminute, hsecond⟩ := timeChars_eq t (offsetChars offset)
  have hfraction := readFraction_fractionChars t.inDay.2.2.2 offset
  have htime : TimeOfDay.ofParts? t.hour t.minute t.second t.microsecond = some t := by
    rw [TimeOfDay.ofParts?, dif_pos t.inDay]
  rw [hchars]
  simp [readTime, readClock, hasSeconds, hhour, hminute, hsecond, hfraction,
    readOffset_offsetChars h, htime]

theorem readCalendar_written {t : DateTime} (h : t.hasZone = true) :
    readCalendar (dateChars t.date ++ 'T' :: timeChars t.time ++ offsetChars t.offset) = .ok t := by
  have hdate : Date.ofParts? t.date.year t.date.month t.date.day = some t.date := by
    rw [Date.ofParts?, dif_pos t.date.inCalendar]
  rw [List.append_assoc, List.cons_append, readCalendar, readDateParts_dateChars]
  simp [readTime_written t.time h, hdate]

theorem splitSign_of_isDigit {c : Char} (h : c.isDigit = true) (cs : List Char) :
    Text.splitSign (c :: cs) = (false, c :: cs) := by
  unfold Text.splitSign
  split
  · next heq => cases heq; cases h
  · next heq => cases heq; cases h
  · rfl

/-- The hyphen after the year tells a date from a count. -/
theorem readCount_written (t : DateTime) :
    readCount (dateChars t.date ++ 'T' :: timeChars t.time ++ offsetChars t.offset) = none := by
  obtain ⟨⟨-, hyear⟩, -⟩ := t.date.inCalendar
  obtain ⟨a, b, c, d, hy, -⟩ := paddedDigits_four (by omega : t.date.year < 10000)
  have hdigit : ∀ x ∈ [a, b, c, d], x.isDigit = true := fun x hx =>
    isDigit_of_mem_paddedDigits (hy ▸ hx)
  simp only [List.mem_cons, List.not_mem_nil, or_false, forall_eq_or_imp, forall_eq] at hdigit
  obtain ⟨ha, hb, hc, hd⟩ := hdigit
  simp [dateChars, hy, readCount, splitSign_of_isDigit ha, ha, hb, hc, hd]

/-- What a date is written as is read as this date. -/
theorem ofText_isoFormat {t : DateTime} (h : t.hasZone = true) : ofText t.isoFormat = .ok t := by
  rw [ofText, isoFormat, String.toList_ofList, readCount_written]
  exact readCalendar_written h

def isDateChar (c : Char) : Bool := c.isDigit || c ∈ ['-', 'T', ':', '.', '+']

theorem all_paddedDigits (width n : Nat) : (paddedDigits width n).all isDateChar = true :=
  List.all_eq_true.mpr fun c hc => by simp [isDateChar, isDigit_of_mem_paddedDigits hc]

theorem all_isoFormat (t : DateTime) : t.isoFormat.toList.all isDateChar = true := by
  have hsign : ∀ c ∈ ['-', 'T', ':', '.', '+'], isDateChar c = true := by simp [isDateChar]
  simp only [List.mem_cons, List.not_mem_nil, or_false, forall_eq_or_imp, forall_eq] at hsign
  obtain ⟨hhyphen, ht, hcolon, hpoint, hplus⟩ := hsign
  have hdate : (dateChars t.date).all isDateChar = true := by
    simp only [dateChars, List.all_append, List.all_cons, all_paddedDigits, hhyphen, Bool.and_self]
  have htime : (timeChars t.time).all isDateChar = true := by
    unfold timeChars
    split <;> simp only [List.all_append, List.all_cons, List.all_nil, all_paddedDigits, hcolon,
      hpoint, Bool.and_self]
  have hoffset : (offsetChars t.offset).all isDateChar = true := by
    cases t.offset with
    | none => rfl
    | some minutes =>
      by_cases h : minutes < 0 <;> simp only [offsetChars, h, if_true, if_false, List.cons_append,
        List.all_append, List.all_cons, all_paddedDigits, hhyphen, hplus, hcolon, Bool.and_self]
  rw [isoFormat, String.toList_ofList]
  simp only [List.all_append, List.all_cons, hdate, htime, hoffset, ht, Bool.and_self]

theorem isWellFormed_isoFormat (t : DateTime) : Text.isWellFormed t.isoFormat = true := by
  refine Text.isWellFormed_of_unmarked fun c hc hmark => ?_
  have hd := List.all_eq_true.mp t.all_isoFormat c hc
  rw [hmark] at hd
  exact absurd hd (by decide)

theorem zone_of_readOffset {cs : List Char} {offset : Option Int}
    (h : readOffset cs = some offset) :
    offset.all (fun minutes => decide (minutes.natAbs < 1440)) = true := by
  simp only [readOffset, Option.bind_eq_bind, Option.pure_def] at h
  split at h
  case h_1 | h_2 | h_3 =>
    cases h
    rfl
  case h_4 | h_5 =>
    obtain ⟨hours, -, h⟩ := Option.bind_eq_some_iff.mp h
    obtain ⟨minutes, -, h⟩ := Option.bind_eq_some_iff.mp h
    by_cases hrange : minutes < 60 ∧ hours * 60 + minutes < 1440
    · rw [if_pos hrange] at h
      split at h
      · cases h
        simp only [Option.all_some, decide_eq_true_eq]
        omega
      · split at h
        · cases h
          simp only [Option.all_some, decide_eq_true_eq]
          omega
        · cases h
    · rw [if_neg hrange] at h
      cases h
  case h_6 => cases h

theorem zone_of_readTime {cs : List Char} {time : TimeOfDay} {offset : Option Int}
    (h : readTime cs = some (time, offset)) :
    offset.all (fun minutes => decide (minutes.natAbs < 1440)) = true := by
  obtain ⟨⟨clock, rest⟩, -, h⟩ := Option.bind_eq_some_iff.mp h
  dsimp only at h
  split at h
  all_goals
    obtain ⟨⟨_, rest⟩, -, h⟩ := Option.bind_eq_some_iff.mp h
    obtain ⟨_, hoffset, h⟩ := Option.bind_eq_some_iff.mp h
    obtain ⟨_, -, h⟩ := Option.bind_eq_some_iff.mp h
    cases h
    exact zone_of_readOffset hoffset

theorem hasZone_of_ofInstant? {instant : Int} {t : DateTime} (h : ofInstant? instant = some t) :
    t.hasZone = true := by
  simp only [ofInstant?, Option.bind_eq_bind, Option.bind_eq_some_iff, Option.pure_def,
    Option.some.injEq] at h
  obtain ⟨_, _, _, _, rfl⟩ := h
  rfl

theorem hasZone_of_readCalendar {cs : List Char} {t : DateTime} (h : readCalendar cs = .ok t) :
    t.hasZone = true := by
  unfold readCalendar at h
  split at h
  · cases h
  · next year month day rest _ =>
    generalize Date.ofParts? year month day = date at h
    cases rest with
    | nil =>
      cases date with
      | none => cases h
      | some d =>
        cases h
        rfl
    | cons c rest =>
      by_cases hc : c ∈ ['T', 't', ' ', '_']
      · cases hr : readTime rest with
        | none => simp [hc, hr] at h
        | some timed =>
          simp only [hc, if_true, hr] at h
          cases date with
          | none => cases h
          | some d =>
            cases h
            exact zone_of_readTime hr
      · simp [hc] at h

/-- An offset that is read from a text is less than a day. -/
theorem hasZone_of_ofText {s : String} {t : DateTime} (h : ofText s = .ok t) :
    t.hasZone = true := by
  unfold ofText ofCountedInstant at h
  split at h
  · split at h
    · next hi =>
      cases h
      exact hasZone_of_ofInstant? hi
    · split at h <;> cases h
  · cases h
  · exact hasZone_of_readCalendar h

end DateTime

end DialogueQuery
