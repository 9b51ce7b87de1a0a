import NestedWorkflow.Instant.Rfc3339
import NestedWorkflow.Proofs.Decimal.Digits

/-!
# Instants are read back from their text

Every instant is read back as it was (`Rfc3339.read?_render`), down to the nanosecond and with leap
seconds.  A number is written with as many digits as its reader takes, so what follows does not
matter; only a year with a sign may have any number of digits, and it ends at the dash behind it.
No text starts with white space that a reader would skip.
-/

namespace NestedWorkflow.Rfc3339

variable {c : Char} {cs rest : List Char} {n width : Nat}

/-! ### Numbers and separators -/

/-- Digits are no white space. -/
lemma isSpace_of_isDigit (h : Decimal.isDigit c = true) : isSpace c = false := by
  simp only [Decimal.isDigit, Bool.and_eq_true, decide_eq_true_eq, Char.le_def,
    UInt32.le_iff_toNat_le] at h
  have hmin : 48 ≤ c.toNat := h.1
  have hmax : c.toNat ≤ 57 := h.2
  simp only [isSpace, Bool.or_eq_false_iff, Bool.and_eq_false_iff, decide_eq_false_iff_not,
    beq_eq_false_iff_ne]
  omega

/-- There is nothing to skip in front of anything but white space. -/
lemma trim_cons (h : isSpace c = false) : trim (c :: cs) = c :: cs := by
  rw [trim, List.dropWhile_cons_of_neg (by simp [h])]

/-- A number of a fixed width starts with a digit. -/
lemma exists_padded_eq_cons (hwidth : 0 < width) (h : n < 10 ^ width) :
    ∃ d ds, Decimal.padded width n = d :: ds ∧ Decimal.isDigit d = true := by
  have hlength := Decimal.length_padded hwidth h
  obtain ⟨d, ds, hds⟩ := List.exists_cons_of_length_pos (hlength ▸ hwidth)
  have hmem : d ∈ Decimal.padded width n := by
    rw [hds]
    exact List.mem_cons_self
  exact ⟨d, ds, hds, Decimal.isDigit_of_mem_padded hmem⟩

/-- There is nothing to skip in front of a number of a fixed width. -/
lemma trim_padded_append (hwidth : 0 < width) (h : n < 10 ^ width) :
    trim (Decimal.padded width n ++ rest) = Decimal.padded width n ++ rest := by
  obtain ⟨d, ds, hds, hd⟩ := exists_padded_eq_cons hwidth h
  rw [hds, List.cons_append, trim_cons (isSpace_of_isDigit hd)]

/-- A number of the width that is asked for is read back, whatever follows. -/
lemma number?_padded (hwidth : 0 < width) (h : n < 10 ^ width) :
    number? width (Decimal.padded width n ++ rest) = some (n, rest) := by
  have hlength := Decimal.length_padded hwidth h
  have htake : (Decimal.padded width n ++ rest).take width = Decimal.padded width n := by
    rw [List.take_append_of_le_length hlength.ge, List.take_of_length_le hlength.le]
  have hdrop : (Decimal.padded width n ++ rest).drop width = rest := by
    rw [List.drop_append_of_le_length hlength.ge, List.drop_of_length_le hlength.le,
      List.nil_append]
  have hall : (Decimal.padded width n).takeWhile Decimal.isDigit = Decimal.padded width n :=
    List.takeWhile_eq_self_iff.2 fun c hc => Decimal.isDigit_of_mem_padded hc
  obtain ⟨d, ds, hds, -⟩ := exists_padded_eq_cons hwidth h
  rw [number?, trim_padded_append hwidth h]
  simp only [htake, hall]
  split
  · rename_i heq
    rw [hds] at heq
    cases heq
  · rw [Decimal.value_padded, hlength, hdrop]

/-- A separator is found at the front. -/
lemma separator?_cons (h : isSpace c = false) : separator? c (c :: rest) = some rest := by
  rw [separator?, trim_cons h]
  simp

/-- A number of any number of digits is read back up to the dash behind it. -/
lemma longNumber?_padded :
    longNumber? (Decimal.padded width n ++ '-' :: rest) = some (n, '-' :: rest) := by
  have hall : ∀ c ∈ Decimal.padded width n, Decimal.isDigit c = true :=
    fun c hc => Decimal.isDigit_of_mem_padded hc
  have hbehind : ∀ c ∈ ('-' :: rest).head?, Decimal.isDigit c = false := by
    rintro c ⟨⟩
    decide
  have hne : Decimal.padded width n ≠ [] := by
    rw [Decimal.padded]
    exact List.append_ne_nil_of_right_ne_nil _ (Decimal.digits_ne_nil n)
  rw [longNumber?, Decimal.takeWhile_append hall hbehind, Decimal.dropWhile_append hall hbehind]
  split
  · rename_i heq
    exact absurd heq hne
  · rw [Decimal.value_padded]

/-- A year of four digits is read back. -/
lemma year?_padded (h : n < 10 ^ 4) :
    year? (Decimal.padded 4 n ++ rest) = some ((n : Int), rest) := by
  obtain ⟨d, ds, hds, hd⟩ := exists_padded_eq_cons (by decide) h
  rw [year?, trim_padded_append (by decide) h]
  have hread : number? 4 (Decimal.padded 4 n ++ rest) = some (n, rest) :=
    number?_padded (by decide) h
  split
  · rename_i heq
    rw [hds] at heq
    obtain rfl := (List.cons.inj heq).1
    exact absurd hd (by decide)
  · rename_i heq
    rw [hds] at heq
    obtain rfl := (List.cons.inj heq).1
    exact absurd hd (by decide)
  · rw [hread, Option.map_some]

/-- A year is read back up to the dash behind it. -/
lemma year?_renderYear (year : Int) :
    year? (renderYear year ++ '-' :: rest) = some (year, '-' :: rest) := by
  unfold renderYear
  split_ifs with hfour hsign
  · have hsmall : year.natAbs < 10 ^ 4 := by omega
    rw [year?_padded hsmall, Int.natAbs_of_nonneg hfour.1]
  · have hplus : isSpace '+' = false := by decide
    rw [List.cons_append, year?, trim_cons hplus]
    simp only [longNumber?_padded, Option.map_some, Int.natAbs_of_nonneg hsign]
  · have hminus : isSpace '-' = false := by decide
    have habs : -(year.natAbs : Int) = year := by omega
    rw [List.cons_append, year?, trim_cons hminus]
    simp only [longNumber?_padded, Option.map_some, habs]

/-- Digits behind a point are read back as the fraction they stand for. -/
lemma fraction?_padded (hwidth : 0 < width) (hnine : width ≤ 9) (h : n < 10 ^ width) :
    fraction? ('.' :: (Decimal.padded width n ++ 'Z' :: rest)) =
      some (n * 10 ^ (9 - width), 'Z' :: rest) := by
  have hlength := Decimal.length_padded hwidth h
  have hall : ∀ c ∈ Decimal.padded width n, Decimal.isDigit c = true :=
    fun c hc => Decimal.isDigit_of_mem_padded hc
  have hbehind : ∀ c ∈ ('Z' :: rest).head?, Decimal.isDigit c = false := by
    rintro c ⟨⟩
    decide
  have htake : (Decimal.padded width n).take 9 = Decimal.padded width n :=
    List.take_of_length_le (hlength.le.trans hnine)
  obtain ⟨d, ds, hds, -⟩ := exists_padded_eq_cons hwidth h
  rw [fraction?, Decimal.takeWhile_append hall hbehind, Decimal.dropWhile_append hall hbehind]
  split
  · rename_i heq
    rw [hds] at heq
    cases heq
  · simp only [htake, Decimal.value_padded, hlength]
    rfl

/-- The fraction of a second is read back. -/
lemma fraction?_renderFraction (h : n < 1000000000) :
    fraction? (renderFraction n ++ 'Z' :: rest) = some (n, 'Z' :: rest) := by
  unfold renderFraction
  split_ifs with hzero hmilli hmicro
  · rw [hzero]
    rfl
  · have hsmall : n / 1000000 < 10 ^ 3 := by omega
    have hvalue : n / 1000000 * 10 ^ (9 - 3) = n := by omega
    rw [List.cons_append, fraction?_padded (by decide) (by decide) hsmall, hvalue]
  · have hsmall : n / 1000 < 10 ^ 6 := by omega
    have hvalue : n / 1000 * 10 ^ (9 - 6) = n := by omega
    rw [List.cons_append, fraction?_padded (by decide) (by decide) hsmall, hvalue]
  · have hvalue : n * 10 ^ (9 - 9) = n := by omega
    rw [List.cons_append, fraction?_padded (by decide) (by decide) h, hvalue]

/-! ### Days and times -/

/-- A month or a day of the calendar has no more than two digits. -/
lemma two_digits_of_valid {d : Day} (h : d.Valid) : d.month < 10 ^ 2 ∧ d.day < 10 ^ 2 := by
  obtain ⟨-, -, -, hmonth, -, hday⟩ := h
  have hdays : daysInMonth d.year d.month ≤ 31 := by
    unfold daysInMonth
    split_ifs <;> omega
  omega

/-- The day in front of an instant's text. -/
def renderDay (d : Day) : List Char :=
  renderYear d.year ++ '-' :: Decimal.padded 2 d.month ++ '-' :: Decimal.padded 2 d.day

/-- The time of day behind it. -/
def renderTime (t : TimeOfDay) : List Char :=
  Decimal.padded 2 t.hour ++ ':' :: Decimal.padded 2 t.minute ++ ':' :: Decimal.padded 2 t.second ++
    renderFraction t.nano

/-- A day is read back. -/
lemma day?_renderDay {d : Day} (h : d.Valid) :
    day? (renderDay d ++ rest) = some (d, rest) := by
  obtain ⟨hmonth, hday⟩ := two_digits_of_valid h
  have htext : renderDay d ++ rest = renderYear d.year ++ '-' :: (Decimal.padded 2 d.month ++
      '-' :: (Decimal.padded 2 d.day ++ rest)) := by
    simp [renderDay]
  have hdash : isSpace '-' = false := by decide
  rw [htext, day?, year?_renderYear]
  simp only [Option.bind_eq_bind, Option.bind_some, separator?_cons hdash,
    number?_padded (by decide : 0 < 2) hmonth, number?_padded (by decide : 0 < 2) hday]

/-- A time of day is read back, up to the designator of its zone. -/
lemma time?_renderTime {t : TimeOfDay} (h : t.Valid) :
    time? (renderTime t ++ 'Z' :: rest) = some (t, 'Z' :: rest) := by
  obtain ⟨hhour, hminute, hsecond, hnano⟩ := h
  have htext : renderTime t ++ 'Z' :: rest = Decimal.padded 2 t.hour ++
      ':' :: (Decimal.padded 2 t.minute ++ ':' :: (Decimal.padded 2 t.second ++
        (renderFraction t.nano ++ 'Z' :: rest))) := by
    simp [renderTime]
  have hcolon : isSpace ':' = false := by decide
  have hzone : isSpace 'Z' = false := by decide
  have htwo : ∀ {n : Nat}, n < 100 → ∀ {rest : List Char},
      number? 2 (Decimal.padded 2 n ++ rest) = some (n, rest) :=
    fun hn => number?_padded (by decide) hn
  rw [htext, time?, htwo (by omega)]
  simp only [Option.bind_eq_bind, Option.bind_some, separator?_cons hcolon,
    htwo (by omega : t.minute < 100), htwo (by omega : t.second < 100),
    fraction?_renderFraction hnano, trim_cons hzone]

/-- In UTC, clocks show the day and the time of an instant. -/
lemma ofLocal?_zero (i : Instant) : Instant.ofLocal? i.date i.time 0 = some i := by
  obtain ⟨hhour, hminute, -, -⟩ := i.timeValid
  have hpos : ¬ (60 * (i.time.hour : Int) + i.time.minute - 0) < 0 := by omega
  have hday : 60 * (i.time.hour : Int) + i.time.minute - 0 < 1440 := by omega
  have hminutes : ((60 * (i.time.hour : Int) + i.time.minute - 0) % 1440).toNat =
      60 * i.time.hour + i.time.minute := by omega
  have hhours : (60 * i.time.hour + i.time.minute) / 60 = i.time.hour := by omega
  have hrest : (60 * i.time.hour + i.time.minute) % 60 = i.time.minute := by omega
  rw [Instant.ofLocal?, if_pos i.dateValid]
  simp only [if_neg hpos, if_pos hday, hminutes, hhours, hrest]
  exact dif_pos ⟨i.dateValid, i.timeValid⟩

/-- Every instant is read back from its text. -/
theorem read?_render (i : Instant) : read? (render i) = some i := by
  have htext : render i = renderDay i.date ++ 'T' :: (renderTime i.time ++ ['Z']) := by
    simp [render, renderDay, renderTime]
  rw [htext, read?, day?_renderDay i.dateValid]
  simp only [Option.bind_eq_bind, Option.bind_some, between?, true_or, if_true,
    time?_renderTime i.timeValid]
  have hzone : offset? ['Z'] = some (0, []) := by decide
  simp only [hzone, Option.bind_some]
  rw [if_pos ⟨rfl, i.timeValid⟩, ofLocal?_zero]

end NestedWorkflow.Rfc3339
