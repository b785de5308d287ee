import NetworkTwin.Instant.Basic
import NetworkTwin.Proofs.Text.Digits

/-!
What the written form of an instant tells. A date tells the day that it was computed from, a
fraction tells the nanoseconds however few digits it has, and the marks between the parts cannot be
taken for parts. So two instants that a clock can show are written alike only if they are one.
-/

namespace NetworkTwin

namespace CivilDate

/-! The day of a date -/

theorem year_of_era_bounds {dayOfEra : Int} (least : 0 ≤ dayOfEra) (below : dayOfEra < 146097) :
    0 ≤ (dayOfEra - dayOfEra / 1460 + dayOfEra / 36524 - dayOfEra / 146096) / 365 ∧
      (dayOfEra - dayOfEra / 1460 + dayOfEra / 36524 - dayOfEra / 146096) / 365 < 400 := by
  omega

/-- The day of the year that is left when the days of the years before it are taken away. -/
theorem day_of_year_bounds {dayOfEra yearOfEra : Int} (least : 0 ≤ dayOfEra)
    (below : dayOfEra < 146097)
    (year : yearOfEra =
      (dayOfEra - dayOfEra / 1460 + dayOfEra / 36524 - dayOfEra / 146096) / 365) :
    0 ≤ dayOfEra - (365 * yearOfEra + yearOfEra / 4 - yearOfEra / 100) ∧
      dayOfEra - (365 * yearOfEra + yearOfEra / 4 - yearOfEra / 100) ≤ 365 := by
  -- The leap years of an era do not come every fourth year, but those of one century do. The last
  -- day of the era is the one that makes its last century longer.
  have centuries : dayOfEra / 36524 = 0 ∨ dayOfEra / 36524 = 1 ∨ dayOfEra / 36524 = 2 ∨
      dayOfEra / 36524 = 3 ∨ dayOfEra = 146096 := by omega
  rcases centuries with first | second | third | fourth | rfl
  · have century : yearOfEra / 100 = 0 := by omega
    omega
  · have century : yearOfEra / 100 = 1 := by omega
    omega
  · have century : yearOfEra / 100 = 2 := by omega
    omega
  · have century : yearOfEra / 100 = 3 := by omega
    omega
  · subst year
    decide

/-- A month counted from January tells the month counted from March, and whether it belongs to the
year before. -/
theorem month_from_march {fromMarch month : Int} (least : 0 ≤ fromMarch) (below : fromMarch < 12)
    (counted : (if fromMarch < 10 then fromMarch + 3 else fromMarch - 9) = month) :
    (Int.ofNat month.toNat + 9) % 12 = fromMarch ∧ (month.toNat ≤ 2 ↔ month ≤ 2) := by
  rw [Int.ofNat_eq_natCast]
  split at counted <;> omega

/-- The day of a date that is put together from an era, a year of it, a month counted from March and
a day. -/
theorem to_days_of_march {era yearOfEra fromMarch month day : Int} (yearLeast : 0 ≤ yearOfEra)
    (yearBelow : yearOfEra < 400) (least : 0 ≤ fromMarch) (below : fromMarch < 12)
    (counted : (if fromMarch < 10 then fromMarch + 3 else fromMarch - 9) = month)
    (dayLeast : 0 ≤ day) :
    toDays ⟨yearOfEra + era * 400 + (if month ≤ 2 then 1 else 0), month.toNat, day.toNat⟩ =
      era * 146097 + (yearOfEra * 365 + yearOfEra / 4 - yearOfEra / 100 +
        ((153 * fromMarch + 2) / 5 + day - 1)) - 719468 := by
  obtain ⟨marchBack, early⟩ := month_from_march least below counted
  have yearBack : (if month.toNat ≤ 2 then
      yearOfEra + era * 400 + (if month ≤ 2 then 1 else 0) - 1
      else yearOfEra + era * 400 + (if month ≤ 2 then 1 else 0)) = yearOfEra + era * 400 := by
    split <;> split <;> omega
  have eraBack : (yearOfEra + era * 400).fdiv 400 = era := by
    rw [Int.fdiv_eq_ediv_of_nonneg _ (by decide)]
    omega
  have dayBack : Int.ofNat day.toNat = day := Int.toNat_of_nonneg dayLeast
  unfold toDays
  dsimp only
  rw [yearBack, eraBack, marchBack, dayBack, Int.add_sub_cancel]

theorem to_days_of_days (days : Int) : (ofDays days).toDays = days := by
  unfold ofDays
  dsimp only
  generalize ofDays : (days + 719468).fdiv 146097 = era
  rw [Int.fdiv_eq_ediv_of_nonneg _ (by decide)] at ofDays
  generalize ofEra : days + 719468 - era * 146097 = dayOfEra
  have least : 0 ≤ dayOfEra := by omega
  have below : dayOfEra < 146097 := by omega
  obtain ⟨yearLeast, yearBelow⟩ := year_of_era_bounds least below
  have bounds := day_of_year_bounds least below rfl
  generalize (dayOfEra - dayOfEra / 1460 + dayOfEra / 36524 - dayOfEra / 146096) / 365 = yearOfEra
    at *
  generalize ofYear : dayOfEra - (365 * yearOfEra + yearOfEra / 4 - yearOfEra / 100) = dayOfYear
    at *
  generalize march : (5 * dayOfYear + 2) / 153 = fromMarch
  rw [to_days_of_march yearLeast yearBelow (by omega) (by omega) rfl (by omega)]
  omega

theorem of_days_inj {days other : Int} (same : ofDays days = ofDays other) : days = other := by
  rw [← to_days_of_days days, same, to_days_of_days]

end CivilDate

namespace Instant

open Text (paddedDecimal not_mem_padded_decimal padded_decimal_inj parts_at_first parts_at_last)

/-! Years and fractions -/

def yearSign (year : Int) : List Char :=
  if 0 ≤ year && year ≤ 9999 then [] else if year < 0 then ['-'] else ['+']

theorem year_text_to_list (year : Int) :
    (yearText year).toList = yearSign year ++ (paddedDecimal 4 year.natAbs).toList := by
  unfold yearText yearSign
  split
  · rename_i four
    have natural : year.toNat = year.natAbs := by
      simp only [Bool.and_eq_true, decide_eq_true_eq] at four
      omega
    rw [natural, List.nil_append]
  · rw [String.toList_append]
    split <;> rfl

theorem digits_of_year_text (year : Int) :
    (yearText year).toList.filter Char.isDigit = (paddedDecimal 4 year.natAbs).toList := by
  have unsigned : (yearSign year).filter Char.isDigit = [] := by
    unfold yearSign
    split
    · rfl
    · split <;> rfl
  rw [year_text_to_list, List.filter_append, unsigned, List.nil_append]
  exact List.filter_eq_self.2 (Text.padded_decimal_characters 4 year.natAbs)

theorem minus_mem_year_text_iff (year : Int) : '-' ∈ (yearText year).toList ↔ year < 0 := by
  rw [year_text_to_list, List.mem_append,
    or_iff_left (not_mem_padded_decimal (by decide) 4 year.natAbs)]
  unfold yearSign
  split
  · simp_all
  · split <;> simp_all

/-- The digits of a year tell how far it is from the year zero, and its sign tells on which side. -/
theorem year_text_inj {year other : Int}
    (same : (yearText year).toList = (yearText other).toList) : year = other := by
  have far : year.natAbs = other.natAbs := by
    apply padded_decimal_inj
    rw [← digits_of_year_text, same, digits_of_year_text]
  have side : year < 0 ↔ other < 0 := by
    rw [← minus_mem_year_text_iff, same, minus_mem_year_text_iff]
  omega

/-- The nanoseconds of a fraction: its digits after the point count for as much more as there are
places left after them. -/
def fractionValue (text : List Char) : Nat :=
  Nat.ofDigitChars 10 (text.drop 1) 0 * Nat.pow 10 (10 - text.length)

theorem fraction_value_padded {width value : Nat} (positive : 0 < width)
    (fits : value < Nat.pow 10 width) :
    fractionValue ("." ++ paddedDecimal width value).toList = value * Nat.pow 10 (9 - width) := by
  have point : ("." ++ paddedDecimal width value).toList =
      '.' :: (paddedDecimal width value).toList := String.toList_append
  rw [fractionValue, point, List.drop_one, List.tail_cons, Text.of_digit_chars_padded_decimal,
    List.length_cons, Text.length_padded_decimal positive fits]
  change value * Nat.pow 10 (9 + 1 - (width + 1)) = _
  rw [Nat.add_sub_add_right]

theorem fraction_value_text {nanoseconds : Nat} (below : nanoseconds < 1000000000) :
    fractionValue (fractionText nanoseconds).toList = nanoseconds := by
  unfold fractionText
  split
  · rename_i whole
    subst whole
    rfl
  · split
    · rw [fraction_value_padded (by decide) (by change _ < 1000; omega)]
      change _ * 1000000 = _
      omega
    · split
      · rw [fraction_value_padded (by decide) (by change _ < 1000000; omega)]
        change _ * 1000 = _
        omega
      · rw [fraction_value_padded (by decide) below]
        exact Nat.mul_one _

theorem fraction_text_inj {nanoseconds other : Nat} (below : nanoseconds < 1000000000)
    (below' : other < 1000000000)
    (same : (fractionText nanoseconds).toList = (fractionText other).toList) :
    nanoseconds = other := by
  rw [← fraction_value_text below, same, fraction_value_text below']

theorem not_mem_fraction_text {c : Char} (mark : c.isDigit = false) (point : c ≠ '.')
    (nanoseconds : Nat) : c ∉ (fractionText nanoseconds).toList := by
  have free (width value : Nat) : c ∉ ("." ++ paddedDecimal width value).toList := by
    rw [String.toList_append, List.mem_append, not_or]
    exact ⟨by simpa using point, not_mem_padded_decimal mark width value⟩
  unfold fractionText
  split
  · simp
  · split
    · exact free _ _
    · split <;> exact free _ _

/-! Dates and times of day -/

def dateText (date : CivilDate) : List Char :=
  (yearText date.year).toList ++ '-' :: (paddedDecimal 2 date.month).toList ++
    '-' :: (paddedDecimal 2 date.day).toList

/-- A time of day. The nanoseconds beyond a second count as a second of their own. -/
def timeText (second nanoseconds : Nat) : List Char :=
  (paddedDecimal 2 (second / 3600)).toList ++ ':' ::
    ((paddedDecimal 2 (second / 60 % 60)).toList ++ ':' ::
      ((paddedDecimal 2 (second % 60 + nanoseconds / 1000000000)).toList ++
        (fractionText (nanoseconds % 1000000000)).toList))

theorem local_text_to_list (instant : Instant) :
    instant.localText.toList =
      dateText (CivilDate.ofDays (instant.seconds.fdiv 86400)) ++
        'T' :: timeText (instant.seconds.fmod 86400).toNat instant.nanoseconds := by
  simp [localText, dateText, timeText]

theorem date_text_inj {date other : CivilDate} (same : dateText date = dateText other) :
    date = other := by
  have free (value : Nat) : '-' ∉ (paddedDecimal 2 value).toList :=
    not_mem_padded_decimal (by decide) 2 value
  obtain ⟨earlier, day⟩ := parts_at_last (free _) (free _) same
  obtain ⟨year, month⟩ := parts_at_last (free _) (free _) earlier
  cases date
  cases other
  cases year_text_inj year
  cases padded_decimal_inj month
  cases padded_decimal_inj day
  rfl

theorem not_mem_date_text {c : Char} (mark : c.isDigit = false) (minus : c ≠ '-') (plus : c ≠ '+')
    (date : CivilDate) : c ∉ dateText date := by
  have sign : c ∉ yearSign date.year := by
    unfold yearSign
    split
    · exact List.not_mem_nil
    · split <;> simpa
  simp [dateText, year_text_to_list, sign, minus, not_mem_padded_decimal mark]

theorem not_mem_time_text {c : Char} (mark : c.isDigit = false) (colon : c ≠ ':')
    (point : c ≠ '.') (second nanoseconds : Nat) : c ∉ timeText second nanoseconds := by
  simp [timeText, colon, not_mem_padded_decimal mark, not_mem_fraction_text mark point]

/-- What a clock can show within a second of the day: fewer nanoseconds than a second has, or fewer
than two if the second is the last of its minute and a leap second follows. -/
def ShowsWithin (second nanoseconds : Nat) : Prop :=
  nanoseconds < 1000000000 ∨ nanoseconds < 2000000000 ∧ second % 60 = 59

theorem time_text_inj {second other nanoseconds nanoseconds' : Nat}
    (shown : ShowsWithin second nanoseconds) (shown' : ShowsWithin other nanoseconds')
    (same : timeText second nanoseconds = timeText other nanoseconds') :
    second = other ∧ nanoseconds = nanoseconds' := by
  have free (value : Nat) : ':' ∉ (paddedDecimal 2 value).toList :=
    not_mem_padded_decimal (by decide) 2 value
  obtain ⟨sameHours, later⟩ := parts_at_first (free _) (free _) same
  obtain ⟨sameMinutes, latest⟩ := parts_at_first (free _) (free _) later
  have two {second nanoseconds : Nat} (shown : ShowsWithin second nanoseconds) :
      (paddedDecimal 2 (second % 60 + nanoseconds / 1000000000)).toList.length = 2 := by
    refine Text.length_padded_decimal (by decide) ?_
    change _ < 100
    rcases shown with whole | leap <;> omega
  obtain ⟨sameSeconds, sameFraction⟩ :=
    List.append_inj latest ((two shown).trans (two shown').symm)
  have hours := padded_decimal_inj sameHours
  have minutes := padded_decimal_inj sameMinutes
  have seconds := padded_decimal_inj sameSeconds
  have fraction := fraction_text_inj (Nat.mod_lt _ (by decide)) (Nat.mod_lt _ (by decide))
    sameFraction
  rcases shown with whole | leap <;> rcases shown' with whole' | leap' <;> omega

/-! Instants -/

/-- The instants that a clock can show: any whole second with fewer nanoseconds than a second has, and
the last second of any minute with fewer than two seconds have, as a leap second may follow it. -/
def OnClock (instant : Instant) : Prop :=
  instant.nanoseconds < 1000000000 ∨
    instant.nanoseconds < 2000000000 ∧ instant.seconds.fmod 60 = 59

instance (instant : Instant) : Decidable instant.OnClock :=
  inferInstanceAs (Decidable (_ ∨ _ ∧ _))

theorem OnClock.shows_within {instant : Instant} (onClock : instant.OnClock) :
    ShowsWithin (instant.seconds.fmod 86400).toNat instant.nanoseconds := by
  rcases onClock with whole | ⟨leap, last⟩
  · exact .inl whole
  · refine .inr ⟨leap, ?_⟩
    rw [Int.fmod_eq_emod_of_nonneg _ (by decide)] at last ⊢
    omega

theorem local_text_inj {instant other : Instant} (onClock : instant.OnClock)
    (onClock' : other.OnClock) (same : instant.localText = other.localText) : instant = other := by
  have parts := congrArg String.toList same
  rw [local_text_to_list, local_text_to_list] at parts
  obtain ⟨date, time⟩ := parts_at_last (not_mem_time_text (by decide) (by decide) (by decide) _ _)
    (not_mem_time_text (by decide) (by decide) (by decide) _ _) parts
  have days := CivilDate.of_days_inj (date_text_inj date)
  obtain ⟨second, nanoseconds⟩ := time_text_inj onClock.shows_within onClock'.shows_within time
  rw [Int.fdiv_eq_ediv_of_nonneg _ (by decide), Int.fdiv_eq_ediv_of_nonneg _ (by decide)] at days
  rw [Int.fmod_eq_emod_of_nonneg _ (by decide), Int.fmod_eq_emod_of_nonneg _ (by decide)] at second
  have seconds : instant.seconds = other.seconds := by omega
  cases instant
  cases other
  cases seconds
  cases nanoseconds
  rfl

theorem render_offset_to_list (instant : Instant) :
    instant.renderOffset.toList = instant.localText.toList ++ "+00:00".toList :=
  String.toList_append

theorem render_offset_inj {instant other : Instant} (onClock : instant.OnClock)
    (onClock' : other.OnClock) (same : instant.renderOffset.toList = other.renderOffset.toList) :
    instant = other := by
  rw [render_offset_to_list, render_offset_to_list] at same
  exact local_text_inj onClock onClock' (String.toList_inj.1 (List.append_cancel_right same))

theorem at_sign_not_mem_render_offset (instant : Instant) :
    '@' ∉ instant.renderOffset.toList := by
  rw [render_offset_to_list, local_text_to_list]
  simp [not_mem_date_text (c := '@') (by decide) (by decide) (by decide),
    not_mem_time_text (c := '@') (by decide) (by decide) (by decide)]

end Instant

end NetworkTwin
