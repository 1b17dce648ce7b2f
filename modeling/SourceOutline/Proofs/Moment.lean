import SourceOutline.Moment
import SourceOutline.Proofs.Text.Numeral

/-!
# Reading a stamp that has been written

Stamps have a fixed shape from the year 1000 on: four digits, then two digits four times, with the
day's name between date and time. So they are read where they are written (`stampAt?_stamp`), and
the digits denote the moment again (`moment?_stampDigits`). Text in front of a stamp does not hide
it when no bracket in it is followed by a digit (`findStamp?_append`, `findStamp?_cons_cons`).
-/

namespace SourceOutline

/-! ## Two digits -/

namespace Text

def twoDigits (n : Nat) : Text := [Nat.digitChar (n / 10 % 10), Nat.digitChar (n % 10)]

variable {n : Nat}

theorem toDigits_of_lt_hundred (low : 10 ≤ n) (high : n < 100) : Nat.toDigits 10 n = twoDigits n := by
  have hlow : n / 10 < 10 := by omega
  rw [Nat.toDigits_of_base_le (by decide) low, Nat.toDigits_of_lt_base hlow, twoDigits,
    Nat.mod_eq_of_lt hlow]
  rfl

theorem zeroFilled_two (h : n < 100) : zeroFilled 2 n = twoDigits n := by
  have htext : (toString n).toList = Nat.toDigits 10 n := Nat.toList_repr
  unfold zeroFilled
  rw [htext]
  by_cases hlow : n < 10
  · rw [Nat.toDigits_of_lt_base hlow, twoDigits, Nat.div_eq_of_lt hlow, Nat.mod_eq_of_lt hlow]
    rfl
  · rw [toDigits_of_lt_hundred (by omega) h]
    rfl

theorem ofInt_four (low : 1000 ≤ n) (high : n ≤ 9999) :
    ofInt n = twoDigits (n / 100) ++ twoDigits n := by
  have htext : ofInt n = Nat.toDigits 10 n := Nat.toList_repr
  have hten : n / 10 / 10 = n / 100 := Nat.div_div_eq_div_mul n 10 10
  rw [htext, Nat.toDigits_of_base_le (by decide) (by omega),
    Nat.toDigits_of_base_le (n := n / 10) (by decide) (by omega), hten,
    toDigits_of_lt_hundred (by omega) (by omega), List.append_assoc]
  rfl

theorem isDecimal_of_mem_twoDigits {c : Char} (h : c ∈ twoDigits n) : IsDecimal c := by
  simp only [twoDigits, List.mem_cons, List.not_mem_nil, or_false] at h
  rcases h with rfl | rfl
  · exact ⟨_, Nat.mod_lt _ (by decide), rfl⟩
  · exact ⟨_, Nat.mod_lt _ (by decide), rfl⟩

theorem numberOfDigits_append_twoDigits (t : Text) (n : Nat) :
    numberOfDigits (t ++ twoDigits n) = 100 * numberOfDigits t + n % 100 := by
  have hlist : t ++ twoDigits n = (t ++ [Nat.digitChar (n / 10 % 10)]) ++ [Nat.digitChar (n % 10)] := by
    rw [List.append_assoc]
    rfl
  rw [hlist, numberOfDigits_concat, numberOfDigits_concat,
    digit?_digitChar _ (Nat.mod_lt _ (by decide)), digit?_digitChar _ (Nat.mod_lt _ (by decide)),
    Option.getD_some, Option.getD_some]
  omega

theorem numberOfDigits_twoDigits (n : Nat) : numberOfDigits (twoDigits n) = n % 100 := by
  have hnumber := numberOfDigits_append_twoDigits [] n
  rwa [List.nil_append, show numberOfDigits [] = 0 from rfl, Nat.mul_zero, Nat.zero_add]
    at hnumber

end Text

namespace Moment

open Text

/-! ## Stamps -/

def stampDigits (m : Moment) : StampDigits where
  year := twoDigits (m.year / 100) ++ twoDigits m.year
  month := twoDigits m.month
  day := twoDigits m.day
  hour := twoDigits m.hour
  minute := twoDigits m.minute

theorem daysInMonth_le (year month : Nat) : daysInMonth year month ≤ 31 := by
  unfold daysInMonth
  split
  case h_12 => split <;> decide
  all_goals decide

theorem month_of_daysInMonth {year month : Nat} (h : 0 < daysInMonth year month) :
    1 ≤ month ∧ month ≤ 12 := by
  unfold daysInMonth at h
  split at h <;> omega

theorem IsReal.bounds {m : Moment} (h : m.IsReal) :
    m.year ≤ 9999 ∧ 1 ≤ m.month ∧ m.month ≤ 12 ∧ 1 ≤ m.day ∧ m.day ≤ 31 ∧ m.hour < 24 ∧
      m.minute < 60 := by
  obtain ⟨hdate, hhour, hminute, -⟩ := h
  simp only [isDate, Bool.and_eq_true, decide_eq_true_eq] at hdate
  obtain ⟨⟨⟨-, hyear⟩, hday⟩, hdays⟩ := hdate
  have hmonth := month_of_daysInMonth (Nat.lt_of_lt_of_le hday hdays)
  have hlast := daysInMonth_le m.year m.month
  exact ⟨hyear, hmonth.1, hmonth.2, hday, by omega, hhour, hminute⟩

/-- A stamp in full: each field has its width. -/
theorem stamp_eq {m : Moment} (real : m.IsReal) (hyear : 1000 ≤ m.year) :
    m.stamp = '[' :: ((twoDigits (m.year / 100) ++ twoDigits m.year) ++
      '-' :: (twoDigits m.month ++ '-' :: (twoDigits m.day ++
        ' ' :: (m.dayName ++ ' ' :: (twoDigits m.hour ++ ':' :: (twoDigits m.minute ++ [']'])))))) := by
  obtain ⟨hhigh, -, hmonth, -, hday, hhour, hminute⟩ := real.bounds
  unfold stamp dateText timeText
  rw [ofInt_four hyear hhigh, zeroFilled_two (by omega), zeroFilled_two (by omega),
    zeroFilled_two (by omega), zeroFilled_two (by omega)]
  simp only [List.append_assoc, List.cons_append]

theorem dayName_ne_nil (m : Moment) : m.dayName ≠ [] := by
  unfold dayName
  split <;> decide

theorem isDayNameChar_of_mem_dayName (m : Moment) : ∀ c ∈ m.dayName, isDayNameChar c = true := by
  have hall : m.dayName.all isDayNameChar = true := by
    unfold dayName
    split <;> rfl
  exact List.all_eq_true.mp hall

theorem takeDigits?_append {digits : Text} (h : ∀ c ∈ digits, isDigit c = true) (rest : Text) :
    takeDigits? digits.length (digits ++ rest) = some (digits, rest) := by
  induction digits with
  | nil => rfl
  | cons c digits ih =>
      have htail := ih fun other hother => h other (List.mem_cons_of_mem c hother)
      rw [List.length_cons, List.cons_append, takeDigits?, if_pos (h c List.mem_cons_self), htail]
      rfl

theorem takeDigits?_twoDigits (n : Nat) (rest : Text) :
    takeDigits? 2 (twoDigits n ++ rest) = some (twoDigits n, rest) :=
  takeDigits?_append (fun _ hc => (isDecimal_of_mem_twoDigits hc).isDigit) rest

theorem takeDigits?_fourDigits (m n : Nat) (rest : Text) :
    takeDigits? 4 (twoDigits m ++ twoDigits n ++ rest) = some (twoDigits m ++ twoDigits n, rest) := by
  have hdigits : ∀ c ∈ twoDigits m ++ twoDigits n, isDigit c = true := by
    intro c hc
    rcases List.mem_append.mp hc with hfront | hback
    · exact (isDecimal_of_mem_twoDigits hfront).isDigit
    · exact (isDecimal_of_mem_twoDigits hback).isDigit
  exact takeDigits?_append hdigits rest

theorem takeChar?_cons (c : Char) (rest : Text) : takeChar? c (c :: rest) = some rest :=
  if_pos (beq_self_eq_true c)

theorem takeWhile_dayName (m : Moment) (rest : Text) :
    (m.dayName ++ ' ' :: rest).takeWhile isDayNameChar = m.dayName ∧
      (m.dayName ++ ' ' :: rest).dropWhile isDayNameChar = ' ' :: rest := by
  have hname := m.isDayNameChar_of_mem_dayName
  have hspace : ¬isDayNameChar ' ' = true := by decide
  rw [List.takeWhile_append_of_pos hname, List.dropWhile_append_of_pos hname,
    List.takeWhile_cons_of_neg hspace, List.dropWhile_cons_of_neg hspace, List.append_nil]
  exact ⟨rfl, rfl⟩

/-- **A stamp is read where it is written.** -/
theorem stampAt?_stamp {m : Moment} (real : m.IsReal) (hyear : 1000 ≤ m.year) :
    stampAt? m.stamp = some m.stampDigits := by
  obtain ⟨htake, hdrop⟩ := m.takeWhile_dayName
    (twoDigits m.hour ++ ':' :: (twoDigits m.minute ++ [']']))
  have hname : m.dayName.isEmpty = false := by
    rw [List.isEmpty_eq_false_iff]
    exact m.dayName_ne_nil
  rw [stamp_eq real hyear]
  unfold stampAt?
  simp only [takeChar?_cons, takeDigits?_fourDigits, takeDigits?_twoDigits, Option.bind_eq_bind,
    Option.bind_some, htake, hdrop, hname]
  rfl

/-- **The digits of a moment denote it**, to the minute. -/
theorem moment?_stampDigits {m : Moment} (real : m.IsReal) (hyear : 1000 ≤ m.year) :
    m.stampDigits.moment? = some m.truncated := by
  obtain ⟨hhigh, hmonth, htwelve, hday, hlast, hhour, hminute⟩ := real.bounds
  have months : ∀ n < 13, 1 ≤ n → isMonthText (twoDigits n) = true := by decide
  have days : ∀ n < 32, 1 ≤ n → isDayText (twoDigits n) = true := by decide
  have hours : ∀ n < 24, isHourText (twoDigits n) = true := by decide
  have minutes : ∀ n < 60, isMinuteText (twoDigits n) = true := by decide
  have hnumber : 100 * (m.year / 100 % 100) + m.year % 100 = m.year := by omega
  unfold StampDigits.moment? stampDigits
  simp only [numberOfDigits_append_twoDigits, numberOfDigits_twoDigits, hnumber,
    Nat.mod_eq_of_lt (show m.month < 100 by omega), Nat.mod_eq_of_lt (show m.day < 100 by omega),
    Nat.mod_eq_of_lt (show m.hour < 100 by omega), Nat.mod_eq_of_lt (show m.minute < 100 by omega),
    months m.month (by omega) hmonth, days m.day (by omega) hday, hours m.hour hhour,
    minutes m.minute hminute, real.1]
  rfl

/-! ## Stamps behind other text -/

theorem stampAt?_eq_none {a b : Char} {rest : Text} (h : a = '[' → isDigit b = false) :
    stampAt? (a :: b :: rest) = none := by
  unfold stampAt?
  by_cases ha : a = '['
  · subst ha
    rw [takeChar?_cons, Option.bind_eq_bind, Option.bind_some, takeDigits?, if_neg (by simp [h rfl])]
    rfl
  · rw [takeChar?, if_neg (by simpa using ha)]
    rfl

theorem findStamp?_cons_cons {a b : Char} (h : a = '[' → isDigit b = false) (rest : Text) :
    findStamp? (a :: b :: rest) = findStamp? (b :: rest) := by
  rw [findStamp?, stampAt?_eq_none h]
  rfl

theorem findStamp?_append {front : Text} (h : '[' ∉ front) (rest : Text) :
    findStamp? (front ++ rest) = findStamp? rest := by
  induction front with
  | nil => rfl
  | cons a front ih =>
      rw [List.mem_cons, not_or] at h
      have hnone : stampAt? (a :: (front ++ rest)) = none := by
        unfold stampAt?
        rw [takeChar?, if_neg (by simpa using Ne.symm h.1)]
        rfl
      rw [List.cons_append, findStamp?, hnone, ← ih h.2]
      rfl

theorem findStamp?_stamp {m : Moment} (real : m.IsReal) (hyear : 1000 ≤ m.year) :
    findStamp? m.stamp = some m.stampDigits := by
  have hstamp := stampAt?_stamp real hyear
  cases htext : m.stamp with
  | nil =>
      rw [htext] at hstamp
      cases hstamp
  | cons c rest =>
      rw [htext] at hstamp
      rw [findStamp?, hstamp]
      rfl

end Moment

end SourceOutline
