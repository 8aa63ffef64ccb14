import Mathlib.Algebra.Group.Nat.Defs
import PolySql.Column.Cast
import PolySql.Proofs.Calendar.Printer

namespace PolySql.Calendar

open Text Number

section Digits
variable {w r : List Char}

theorem not_isDigit_of_head? (c : Char) (t : List Char) (hc : c.isDigit = false) :
    ∀ d ∈ (c :: t).head?, d.isDigit = false := by
  rintro d ⟨⟩
  exact hc

theorem readDigits?_append {most : Nat} (hw : IsDigits w) (hmost : w.length ≤ most)
    (hr : ∀ c ∈ r.head?, c.isDigit = false) :
    readDigits? most (w ++ r) = some (digitsValue w, r) := by
  have hrest : ∀ c ∈ (r.take (most - w.length)).head?, c.isDigit = false := by
    intro c hc
    rw [List.head?_take] at hc
    split at hc
    · cases hc
    · exact hr c hc
  have hrun : ((w ++ r).take most).takeWhile Char.isDigit = w := by
    rw [List.take_append, List.take_of_length_le hmost]
    exact (hw.takeWhile_append (fun _ => id) hrest).1
  rw [readDigits?, hrun, if_neg hw.ne_nil, List.drop_left]

theorem readDigits?_padded {width most n : Nat} (hmost : (padded width n).toList.length ≤ most)
    (hr : ∀ c ∈ r.head?, c.isDigit = false) :
    readDigits? most ((padded width n).toList ++ r) = some (n, r) := by
  rw [readDigits?_append (isDigits_padded width n) hmost hr, digitsValue_padded]

theorem trimStart_digits (hw : IsDigits w) : trimStart (w ++ r) = w ++ r :=
  trimStart_of_head? fun c hc => not_isBlank_of_isDigit (hw.isDigit_head c hc)

theorem readNumber?_padded {n : Nat} (hn : n < 100) (hr : ∀ c ∈ r.head?, c.isDigit = false) :
    readNumber? ((padded 2 n).toList ++ r) = some (n, r) := by
  rw [readNumber?, trimStart_digits (isDigits_padded 2 n)]
  exact readDigits?_padded (Nat.le_of_eq (length_padded (by decide) hn)) hr

end Digits

theorem readYear?_digits {t : List Char} (ht : ∀ c ∈ t.head?, c.isDigit = true) :
    readYear? t = (readDigits? 4 t).map fun p => ((p.1 : Int), p.2) := by
  have hsign {c : Char} {r : List Char} (hc : c.isDigit = false) : t ≠ c :: r := by
    rintro rfl
    rw [ht c rfl] at hc
    cases hc
  rw [readYear?, trimStart_of_head? fun c hc => not_isBlank_of_isDigit (ht c hc)]
  split
  · exact absurd rfl (hsign rfl)
  · exact absurd rfl (hsign rfl)
  · rfl

theorem readYear?_yearText (year : Int) (r : List Char) :
    readYear? ((yearText year).toList ++ '-' :: r) = some (year, '-' :: r) := by
  have hdash := not_isDigit_of_head? '-' r rfl
  have hsigned : readDigits? ((padded 4 year.natAbs).toList ++ '-' :: r).length
      ((padded 4 year.natAbs).toList ++ '-' :: r) = some (year.natAbs, '-' :: r) :=
    readDigits?_padded (by simp) hdash
  unfold yearText
  split
  · rename_i hyear
    have hlength : (padded 4 year.toNat).toList.length = 4 := length_padded (by decide) (by omega)
    rw [readYear?_digits (isDigits_padded 4 year.toNat).isDigit_head,
      readDigits?_padded (Nat.le_of_eq hlength) hdash, Option.map_some, Int.toNat_of_nonneg hyear.1]
  · rename_i hyear
    rw [String.toList_append, List.append_assoc]
    split
    · rename_i hnegative
      rw [show "-".toList = ['-'] by decide, List.singleton_append, readYear?,
        trimStart_of_head? (by rintro c ⟨⟩; rfl)]
      simp only [hsigned, Option.map_some]
      rw [show -(year.natAbs : Int) = year by omega]
    · rename_i hpositive
      rw [show "+".toList = ['+'] by decide, List.singleton_append, readYear?,
        trimStart_of_head? (by rintro c ⟨⟩; rfl)]
      simp only [hsigned, Option.map_some]
      rw [show (year.natAbs : Int) = year by omega]

theorem daysInMonth_le (year : Int) (month : Nat) : daysInMonth year month ≤ 31 := by
  unfold daysInMonth
  split
  · split <;> decide
  · split
    · decide
    · split <;> decide

theorem readDate?_text {d : Date} (hyear : firstYear ≤ d.year ∧ d.year ≤ lastYear) {r : List Char}
    (hr : ∀ c ∈ r.head?, c.isDigit = false) : readDate? (d.text.toList ++ r) = some (d, r) := by
  have hmonth := month_of_days d.valid
  have hday := Nat.le_trans d.valid.2 (daysInMonth_le d.year d.month)
  have htext : d.text.toList ++ r = (yearText d.year).toList ++
      '-' :: ((padded 2 d.month).toList ++ '-' :: ((padded 2 d.day).toList ++ r)) := by
    simp [Date.text, String.toList_append]
  have hdate : (Date.ofParts? d.year d.month d.day).bind representable? = some d := by
    rw [show Date.ofParts? d.year d.month d.day = some d from dif_pos d.valid, Option.bind_some,
      representable?, if_pos hyear]
  rw [htext, readDate?, readYear?_yearText]
  simp only [Option.bind_eq_bind, Option.bind_some, readChar?, if_true,
    readNumber?_padded (show d.month < 100 by omega) (not_isDigit_of_head? '-' _ rfl),
    readNumber?_padded (show d.day < 100 by omega) hr, hdate]
  rfl

namespace Clock

def LeapsAtMinute (c : Clock) : Prop :=
  1000000000 ≤ c.nanos → c.secondOfMinute = 59

instance (c : Clock) : Decidable c.LeapsAtMinute :=
  inferInstanceAs (Decidable (_ → _))

def shown (c : Clock) : Clock :=
  if h : c.LeapsAtMinute then c
  else
    ⟨c.second + 1, c.nanos - 1000000000, by
      have hvalid := c.valid
      unfold LeapsAtMinute secondOfMinute at h
      omega⟩

def truncated (c : Clock) (digits : Nat) : Clock :=
  ⟨c.second, c.nanos - c.shownNanos % 10 ^ (9 - min digits 9), by have := c.valid; omega⟩

theorem shown_eq_iff (c : Clock) : c.shown = c ↔ c.LeapsAtMinute := by
  unfold shown
  split
  · rename_i h
    exact iff_of_true rfl h
  · rename_i h
    refine iff_of_false (fun heq => ?_) h
    have hsecond : c.second + 1 = c.second := congrArg second heq
    omega

theorem leapsAtMinute_shown (c : Clock) : c.shown.LeapsAtMinute := by
  unfold shown
  split
  · assumption
  · have hvalid := c.valid
    unfold LeapsAtMinute
    dsimp only
    omega

theorem formatTime_shown (c : Clock) (digits : Nat) : formatTime c.shown digits = formatTime c digits := by
  unfold shown
  split
  · rfl
  · rename_i h
    have hvalid := c.valid
    unfold LeapsAtMinute secondOfMinute at h
    simp only [formatTime, text, hour, minute, shownSecond, secondOfMinute, shownNanos]
    rw [show (c.second + 1) / 3600 = c.second / 3600 by omega,
      show (c.second + 1) / 60 = c.second / 60 by omega,
      show (c.second + 1) % 60 + (c.nanos - 1000000000) / 1000000000 =
        c.second % 60 + c.nanos / 1000000000 by omega,
      show (c.nanos - 1000000000) % 1000000000 = c.nanos % 1000000000 by omega]

theorem ofParts?_self (c : Clock) : ofParts? c.hour c.minute c.secondOfMinute c.nanos = some c := by
  have hvalid := c.valid
  have hparts : c.hour < 24 ∧ c.minute < 60 ∧ c.secondOfMinute < 60 ∧ c.nanos < 2000000000 := by
    unfold hour minute secondOfMinute
    omega
  have hsecond : c.hour * 3600 + c.minute * 60 + c.secondOfMinute = c.second := by
    unfold hour minute secondOfMinute
    omega
  simp only [ofParts?, dif_pos hparts, hsecond]

theorem ofParts?_truncated {c : Clock} (hleap : c.LeapsAtMinute) (digits : Nat) {fraction : Nat}
    (hfraction : c.shownNanos - c.shownNanos % 10 ^ (9 - min digits 9) = fraction) :
    (if c.shownSecond = 60 then ofParts? c.hour c.minute 59 (1000000000 + fraction)
      else ofParts? c.hour c.minute c.shownSecond fraction) = some (c.truncated digits) := by
  have hvalid := c.valid
  have hsecond : c.secondOfMinute < 60 := Nat.mod_lt _ (by decide)
  have hdropped : c.shownNanos % 10 ^ (9 - min digits 9) ≤ c.shownNanos := Nat.mod_le ..
  have hself : ofParts? c.hour c.minute c.secondOfMinute
      (c.nanos - c.shownNanos % 10 ^ (9 - min digits 9)) = some (c.truncated digits) :=
    ofParts?_self (c.truncated digits)
  by_cases hnanos : 1000000000 ≤ c.nanos
  · have hlast := hleap hnanos
    have hshown : c.shownSecond = 60 ∧ c.nanos = 1000000000 + c.shownNanos := by
      unfold shownSecond shownNanos
      omega
    rw [if_pos hshown.1, ← hself, hlast, ← hfraction, ← Nat.add_sub_assoc hdropped, ← hshown.2]
  · have hshown : c.shownSecond = c.secondOfMinute ∧ c.shownNanos = c.nanos := by
      unfold shownSecond shownNanos
      omega
    rw [hshown.1, if_neg (by omega), ← hself, ← hfraction, hshown.2]

end Clock

theorem readFraction?_fraction {nanos : Nat} (hnanos : nanos < 1000000000) (digits : Nat) :
    readFraction? (fraction nanos digits).toList =
      some (nanos - nanos % 10 ^ (9 - min digits 9), []) := by
  have hplaces : min digits 9 ≤ 9 := Nat.min_le_right ..
  have hunit : 10 ^ (9 - min digits 9) * 10 ^ min digits 9 = 1000000000 := by
    rw [← Nat.pow_add, Nat.sub_add_cancel hplaces]
  have hscaled : nanos / 10 ^ (9 - min digits 9) < 10 ^ min digits 9 :=
    Nat.div_lt_of_lt_mul (by omega)
  rw [← Nat.div_mul_self_eq_mod_sub_self]
  unfold fraction
  dsimp only
  split
  · rename_i hempty
    have hzero : nanos / 10 ^ (9 - min digits 9) = 0 := by
      rcases hempty with hempty | hempty
      · rw [hempty] at hscaled ⊢
        omega
      · exact hempty
    rw [hzero, Nat.zero_mul]
    rfl
  · rename_i hdigits
    have hlength := length_padded (by omega) hscaled
    have hread : readDigits? 9 (padded (min digits 9) (nanos / 10 ^ (9 - min digits 9))).toList =
        some (nanos / 10 ^ (9 - min digits 9), []) := by
      simpa using readDigits?_padded (r := []) (Nat.le_trans (Nat.le_of_eq hlength) hplaces) nofun
    rw [String.toList_append, show ".".toList = ['.'] by decide, List.singleton_append,
      readFraction?, Nat.pow_eq, hread]
    simp [hlength]

theorem not_isDigit_head_fraction (nanos digits : Nat) :
    ∀ c ∈ (fraction nanos digits).toList.head?, c.isDigit = false := by
  unfold fraction
  dsimp only
  split
  · rintro c ⟨⟩
  · rw [String.toList_append, show ".".toList = ['.'] by decide, List.singleton_append]
    exact not_isDigit_of_head? '.' _ rfl

theorem readClock?_formatTime {c : Clock} (hleap : c.LeapsAtMinute) (digits : Nat) :
    readClock? (formatTime c digits).toList = some (c.truncated digits, []) := by
  have hvalid := c.valid
  have hhour : c.hour < 100 := by
    unfold Clock.hour
    omega
  have hminute : c.minute < 100 := by
    unfold Clock.minute
    omega
  have hsecond : c.shownSecond < 100 := by
    unfold Clock.shownSecond Clock.secondOfMinute
    omega
  have hnanos : c.shownNanos < 1000000000 := Nat.mod_lt _ (by decide)
  have htext : (formatTime c digits).toList = (padded 2 c.hour).toList ++
      ':' :: ((padded 2 c.minute).toList ++
        ':' :: ((padded 2 c.shownSecond).toList ++ (fraction c.shownNanos digits).toList)) := by
    simp [formatTime, Clock.text, String.toList_append]
  have hclock := Clock.ofParts?_truncated hleap digits rfl
  rw [htext, readClock?]
  simp only [Option.bind_eq_bind, Option.bind_some, readChar?, if_true,
    readNumber?_padded hhour (not_isDigit_of_head? ':' _ rfl),
    readNumber?_padded hminute (not_isDigit_of_head? ':' _ rfl),
    readNumber?_padded hsecond (not_isDigit_head_fraction _ _), readFraction?_fraction hnanos]
  split
  · rename_i hsixty
    rw [if_pos hsixty] at hclock
    rw [hclock]
    rfl
  · rename_i hsixty
    rw [if_neg hsixty] at hclock
    rw [hclock]
    rfl

theorem hasBareEnds_date (d : Date) : HasBareEnds d.text.toList :=
  hasBareEnds_of_all (by simp [Date.text])
    (d.all_text (fun c hc => by simp [not_isBlank_of_isDigit hc]) rfl rfl)

theorem hasBareEnds_formatTime (c : Clock) (digits : Nat) :
    HasBareEnds (formatTime c digits).toList :=
  hasBareEnds_of_all (by simp [formatTime, Clock.text])
    (all_formatTime (fun c hc => by simp [not_isBlank_of_isDigit hc]) rfl rfl c digits)

theorem trimmed_formatTime (c : Clock) (digits : Nat) :
    trimmed (formatTime c digits) = formatTime c digits := by
  rw [trimmed, (hasBareEnds_formatTime c digits).trim_eq, String.ofList_toList]

theorem trimmed_formatTimestamp (t : Timestamp) (digits : Nat) :
    trimmed (formatTimestamp t digits) = formatTimestamp t digits := by
  have hbare : HasBareEnds (formatTimestamp t digits).toList := by
    rw [formatTimestamp, String.toList_append, String.toList_append]
    exact (hasBareEnds_date t.date).append (hasBareEnds_formatTime t.time digits) _
  rw [trimmed, hbare.trim_eq, String.ofList_toList]

theorem readTimestamp?_formatTimestamp {t : Timestamp}
    (hyear : firstYear ≤ t.date.year ∧ t.date.year ≤ lastYear) (hleap : t.time.LeapsAtMinute)
    (digits : Nat) :
    readTimestamp? (fun r => some (trimStart r)) (formatTimestamp t digits).toList =
      some (⟨t.date, t.time.truncated digits⟩, []) := by
  have htext : (formatTimestamp t digits).toList =
      t.date.text.toList ++ ' ' :: (formatTime t.time digits).toList := by
    simp [formatTimestamp, String.toList_append]
  have htrim {u : List Char} (hu : HasBareEnds u) : trimStart (' ' :: u) = u := by
    rw [trimStart, List.dropWhile_cons_of_pos (by decide)]
    exact trimStart_of_head? hu.head?
  have htime := readClock?_formatTime hleap digits
  have hbare := hasBareEnds_formatTime t.time digits
  rw [htext]
  generalize (formatTime t.time digits).toList = u at htime hbare ⊢
  rw [readTimestamp?, readDate?_text hyear (not_isDigit_of_head? ' ' u rfl)]
  simp only [Option.bind_eq_bind, Option.bind_some, htrim hbare, htime]
  rfl

theorem cast_format_eq_shown_truncated (digits : Nat) :
    (∀ type : ColumnType, type.kind = .time → ∀ c : Clock,
      type.cast (formatTime c digits) = some (.time (c.shown.truncated digits))) ∧
    (∀ type : ColumnType, type.kind = .dateTime → ∀ t : Timestamp,
      firstYear ≤ t.date.year ∧ t.date.year ≤ lastYear →
        type.cast (formatTimestamp t digits) =
          some (.timestamp ⟨t.date, t.time.shown.truncated digits⟩)) ∧
    ∀ c : Clock, c.shown = c ↔ (1000000000 ≤ c.nanos → c.secondOfMinute = 59) := by
  refine ⟨fun type hkind c => ?_, fun type hkind t hyear => ?_, Clock.shown_eq_iff⟩
  · have hread := readClock?_formatTime c.leapsAtMinute_shown digits
    rw [c.formatTime_shown] at hread
    rw [ColumnType.cast, hkind, TypeKind.cast, trimmed_formatTime, Clock.read?, hread]
    rfl
  · have hread := readTimestamp?_formatTimestamp (t := ⟨t.date, t.time.shown⟩) hyear
      t.time.leapsAtMinute_shown digits
    have htext : formatTimestamp ⟨t.date, t.time.shown⟩ digits = formatTimestamp t digits := by
      simp only [formatTimestamp, t.time.formatTime_shown]
    rw [htext] at hread
    rw [ColumnType.cast, hkind, TypeKind.cast, trimmed_formatTimestamp, Timestamp.read?, hread]
    simp only [whole, Option.orElse_some, Option.map_some]

theorem cast_format_eq_shown_truncated_leapSecond :
    let t : Timestamp := ⟨⟨-44, 3, 15, by decide⟩, ⟨86399, 1999999999, by decide⟩⟩
    let read : Clock := ⟨86399, 1999000000, by decide⟩
    (ColumnType.plain .time "time").kind = .time ∧
    (ColumnType.plain .dateTime "datetime2").kind = .dateTime ∧
    (firstYear ≤ t.date.year ∧ t.date.year ≤ lastYear) ∧
    formatTimestamp t 3 = "-0044-03-15 23:59:60.999" ∧
    (ColumnType.plain .time "time").cast (formatTime t.time 3) = some (.time read) ∧
    (ColumnType.plain .dateTime "datetime2").cast (formatTimestamp t 3) =
      some (.timestamp ⟨t.date, read⟩) := by
  intro t read
  have hyear : firstYear ≤ t.date.year ∧ t.date.year ≤ lastYear := by decide
  have hread : t.time.shown.truncated 3 = read := by decide +kernel
  refine ⟨rfl, rfl, hyear, by decide +kernel, ?_, ?_⟩
  · rw [← hread]
    exact (cast_format_eq_shown_truncated 3).1 _ rfl t.time
  · rw [← hread]
    exact (cast_format_eq_shown_truncated 3).2.1 _ rfl t hyear

theorem cast_format_ne_of_leap_within_minute :
    let t : Timestamp := ⟨⟨2016, 12, 31, by decide⟩, ⟨86343, 1500000000, by decide⟩⟩
    let next : Timestamp := ⟨t.date, ⟨86344, 500000000, by decide⟩⟩
    t.time.truncated 6 = t.time ∧
    formatTimestamp t 6 = "2016-12-31 23:59:04.500000" ∧
    (ColumnType.plain .dateTime "datetime2").cast (formatTimestamp t 6) = some (.timestamp next) ∧
    (ColumnType.plain .dateTime "datetime2").cast (formatTimestamp t 6) ≠ some (.timestamp t) := by
  intro t next
  have htext : formatTimestamp t 6 = "2016-12-31 23:59:04.500000" := by cbv
  have hread : (ColumnType.plain .dateTime "datetime2").cast "2016-12-31 23:59:04.500000" =
      some (.timestamp next) := rfl
  rw [htext, hread]
  refine ⟨by decide +kernel, rfl, rfl, fun heq => ?_⟩
  have hsecond : 86344 = 86343 :=
    congrArg (fun t : Timestamp => t.time.second) (Value.timestamp.inj (Option.some.inj heq))
  omega

end PolySql.Calendar
