import HttpBridge.Proofs.Results
import HttpBridge.Time.Reading

namespace HttpBridge.Time

open Decimal (padded)

theorem isBlank_of_isDigit {c : Char} (h : c.isDigit = true) : Text.isBlank c = false := by
  simp only [Char.isDigit, Bool.and_eq_true, decide_eq_true_eq, UInt32.le_iff_toNat_le] at h
  have low : 48 ≤ c.toNat := h.1
  have high : c.toNat ≤ 57 := h.2
  simp only [Text.isBlank, Bool.or_eq_false_iff, Bool.and_eq_false_iff, decide_eq_false_iff_not,
    beq_eq_false_iff_ne]
  omega

theorem padded_head (width n : Nat) :
    ∃ d ds, padded width n = d :: ds ∧ d.isDigit = true := by
  cases h : padded width n with
  | nil => exact absurd h (Decimal.padded_ne_nil width n)
  | cons d ds => exact ⟨d, ds, rfl, Decimal.isDigit_of_mem_padded (h ▸ List.mem_cons_self)⟩

theorem trimStart_cons {c : Char} (cs : List Char) (h : Text.isBlank c = false) :
    Text.trimStart (c :: cs) = c :: cs := by
  simp [Text.trimStart, h]

theorem trimStart_padded (width n : Nat) (cs : List Char) :
    Text.trimStart (padded width n ++ cs) = padded width n ++ cs := by
  obtain ⟨d, ds, h, hd⟩ := padded_head width n
  rw [h]
  exact trimStart_cons _ (isBlank_of_isDigit hd)

theorem digits_padded {atMost width n : Nat} {c : Char} (cs : List Char)
    (h : (padded width n).length ≤ atMost) (hc : c.isDigit = false) :
    digits atMost (padded width n ++ c :: cs) = .ok (n, c :: cs) := by
  have hd : ∀ c ∈ padded width n, c.isDigit = true := fun _ => Decimal.isDigit_of_mem_padded
  have stop : ((c :: cs).take (atMost - (padded width n).length)).takeWhile Char.isDigit = [] := by
    cases atMost - (padded width n).length with
    | zero => rfl
    | succ k => simp [hc]
  have read : ((padded width n ++ c :: cs).take atMost).takeWhile Char.isDigit =
      padded width n := by
    rw [List.take_append, List.take_of_length_le h, List.takeWhile_append_of_pos hd, stop,
      List.append_nil]
  have ne : (padded width n).isEmpty = false := by simp [Decimal.padded_ne_nil]
  unfold digits
  split
  · simp_all
  · simp only [read, ne, Decimal.digitsValue_padded, List.drop_left]
    rfl

theorem longDigits_padded {width n : Nat} {c : Char} (cs : List Char) (hn : n < 1 <<< 63)
    (hc : c.isDigit = false) : longDigits (padded width n ++ c :: cs) = .ok (n, c :: cs) := by
  rw [longDigits, digits_padded cs (by simp) hc]
  exact if_pos hn

theorem twoDigits_padded {low high n : Nat} {c : Char} (cs : List Char) (hl : low ≤ n)
    (hh : n ≤ high) (h : n < 100) (hc : c.isDigit = false) :
    twoDigits low high (padded 2 n ++ c :: cs) = .ok (n, c :: cs) := by
  have length := Decimal.length_padded 2 (by decide) h
  rw [twoDigits, trimStart_padded, within, digits_padded cs (Nat.le_of_eq length) hc]
  change (if (decide (low ≤ n) && decide (n ≤ high)) = true then _ else _) = _
  rw [if_pos (by simp [hl, hh])]

theorem separator_cons {mark : Char} (cs : List Char) (h : Text.isBlank mark = false) :
    separator mark (mark :: cs) = .ok cs := by
  rw [separator, trimStart_cons cs h]
  exact if_pos rfl

theorem year_plain {n : Nat} {c : Char} (cs : List Char) (h : n ≤ 9999) (hc : c.isDigit = false) :
    year (padded 4 n ++ c :: cs) = .ok ((n : Int), c :: cs) := by
  have length := Decimal.length_padded 4 (by decide) (Nat.lt_succ_of_le h)
  have read := digits_padded cs (Nat.le_of_eq length) hc
  have holds : (Decimal.Range.signed 32).holds n = true := by
    have : Decimal.Range.signed 32 = ⟨-2147483648, 2147483647⟩ := rfl
    simp only [this, Decimal.Range.holds, Bool.and_eq_true, decide_eq_true_eq]
    omega
  obtain ⟨d, ds, hd, digit⟩ := padded_head 4 n
  unfold year
  rw [trimStart_padded]
  split
  · rename_i heq
    rw [hd, List.cons_append, List.cons.injEq] at heq
    exact absurd digit (heq.1 ▸ by decide)
  · rename_i heq
    rw [hd, List.cons_append, List.cons.injEq] at heq
    exact absurd digit (heq.1 ▸ by decide)
  · rw [read]
    exact if_pos holds

theorem year_signed {n : Nat} {c : Char} (cs : List Char) (negative : Bool) (h : n ≤ 999999)
    (hc : c.isDigit = false) :
    year ((if negative then '-' else '+') :: padded 4 n ++ c :: cs) =
      .ok (if negative then -(n : Int) else n, c :: cs) := by
  have small : n < 1 <<< 63 := Nat.lt_of_le_of_lt h (by decide)
  have range : Decimal.Range.signed 32 = ⟨-2147483648, 2147483647⟩ := rfl
  cases negative with
  | true =>
    have holds : (Decimal.Range.signed 32).holds (-(n : Int)) = true := by
      simp only [range, Decimal.Range.holds, Bool.and_eq_true, decide_eq_true_eq]
      omega
    change year ('-' :: (padded 4 n ++ c :: cs)) = _
    rw [year, trimStart_cons _ (by decide)]
    simp only [longDigits_padded cs small hc]
    exact if_pos holds
  | false =>
    have holds : (Decimal.Range.signed 32).holds n = true := by
      simp only [range, Decimal.Range.holds, Bool.and_eq_true, decide_eq_true_eq]
      omega
    change year ('+' :: (padded 4 n ++ c :: cs)) = _
    rw [year, trimStart_cons _ (by decide)]
    simp only [longDigits_padded cs small hc]
    exact if_pos holds

theorem year_yearText {y : Int} {c : Char} (cs : List Char) (hl : firstYear ≤ y)
    (hh : y ≤ lastYear) (hc : c.isDigit = false) :
    year (yearText y ++ c :: cs) = .ok (y, c :: cs) := by
  simp only [firstYear, lastYear] at hl hh
  unfold yearText
  split
  · rename_i plain
    simp only [Bool.and_eq_true, decide_eq_true_eq] at plain
    have read := year_plain cs (n := y.toNat) (by omega) hc
    rwa [Int.toNat_of_nonneg plain.1] at read
  · rename_i signed
    simp only [Bool.and_eq_true, decide_eq_true_eq] at signed
    have read := year_signed cs (n := y.natAbs) (decide (y < 0)) (by omega) hc
    have value : (if decide (y < 0) = true then -(y.natAbs : Int) else y.natAbs) = y := by
      split
      · rename_i h
        have := of_decide_eq_true h
        omega
      · rename_i h
        have := of_decide_eq_false (Bool.eq_false_iff.mpr h)
        omega
    rw [value] at read
    simpa using read

theorem fraction_padded {width n : Nat} (cs : List Char) (hw : 0 < width) (h9 : width ≤ 9)
    (h : n < Nat.pow 10 width) :
    fraction ('.' :: padded width n ++ 'Z' :: cs) = .ok (n * Nat.pow 10 (9 - width), 'Z' :: cs) := by
  have length := Decimal.length_padded width hw h
  have read := digits_padded (c := 'Z') cs (Nat.le_trans (Nat.le_of_eq length) h9) (by decide)
  have count : (padded width n ++ 'Z' :: cs).length - ('Z' :: cs).length = width := by
    rw [List.length_append, length]
    omega
  rw [List.cons_append, fraction, read]
  change Except.ok (n * Nat.pow 10 (9 - ((padded width n ++ 'Z' :: cs).length -
    ('Z' :: cs).length)), _) = _
  rw [count]
  rfl

theorem fraction_fractionText {nanos : Nat} (cs : List Char) (h : nanos < billion) :
    fraction (fractionText nanos ++ 'Z' :: cs) = .ok (nanos, 'Z' :: cs) := by
  simp only [billion] at h
  unfold fractionText
  split
  · rename_i zero
    rw [zero]
    rfl
  · split
    · rename_i millis
      rw [fraction_padded cs (by decide) (by decide) (by change _ < 1000; omega)]
      change Except.ok (nanos / 1000000 * 1000000, _) = _
      rw [Nat.div_mul_cancel (Nat.dvd_of_mod_eq_zero millis)]
    · split
      · rename_i micros
        rw [fraction_padded cs (by decide) (by decide) (by change _ < 1000000; omega)]
        change Except.ok (nanos / 1000 * 1000, _) = _
        rw [Nat.div_mul_cancel (Nat.dvd_of_mod_eq_zero micros)]
      · rw [fraction_padded cs (by decide) (by decide) (by change _ < 1000000000; omega)]
        change Except.ok (nanos * 1, _) = _
        rw [Nat.mul_one]

theorem fractionText_head (nanos : Nat) (cs : List Char) :
    ∃ d ds, fractionText nanos ++ 'Z' :: cs = d :: ds ∧ d.isDigit = false := by
  unfold fractionText
  split
  · exact ⟨'Z', cs, rfl, by decide⟩
  · split
    · exact ⟨'.', _, rfl, by decide⟩
    · split
      · exact ⟨'.', _, rfl, by decide⟩
      · exact ⟨'.', _, rfl, by decide⟩

def Moment.fields (m : Moment) : Fields :=
  ⟨m.date.year, m.date.month, m.date.day, m.clock.hour, m.clock.minute,
    m.clock.second + m.clock.nanos / billion, m.clock.nanos % billion, 0⟩

theorem daysInMonth_le (year : Int) (month : Nat) : daysInMonth year month ≤ 31 := by
  unfold daysInMonth
  split
  · split <;> decide
  · split <;> decide

theorem fields_text (m : Moment) : fields m.text = .ok (m.fields, []) := by
  obtain ⟨first, last, month, month', day, day'⟩ := m.date.valid
  obtain ⟨hour, minute, second, nanos⟩ := m.clock.valid
  have day31 := Nat.le_trans day' (daysInMonth_le m.date.year m.date.month)
  have second60 : m.clock.second + m.clock.nanos / billion ≤ 60 := by
    simp only [billion] at nanos ⊢
    omega
  have rest : m.clock.nanos % billion < billion := Nat.mod_lt _ (by decide)
  have seconds : twoDigits 0 60 (padded 2 (m.clock.second + m.clock.nanos / billion) ++
      (fractionText (m.clock.nanos % billion) ++ ['Z'])) =
        .ok (m.clock.second + m.clock.nanos / billion,
          fractionText (m.clock.nanos % billion) ++ ['Z']) := by
    obtain ⟨c, cs, h, hc⟩ := fractionText_head (m.clock.nanos % billion) []
    rw [h]
    exact twoDigits_padded cs (Nat.zero_le _) second60 (by omega) hc
  simp only [Moment.text, List.append_assoc, List.cons_append]
  simp only [fields, bind, Except.bind, separator_cons _ (by decide : Text.isBlank '-' = false),
    separator_cons _ (by decide : Text.isBlank ':' = false),
    year_yearText _ first last (by decide : Char.isDigit '-' = false),
    twoDigits_padded _ month month' (by omega) (by decide : Char.isDigit '-' = false),
    twoDigits_padded _ day day31 (by omega) (by decide : Char.isDigit 'T' = false),
    twoDigits_padded _ (Nat.zero_le _) (Nat.le_of_lt_succ hour) (by omega)
      (by decide : Char.isDigit ':' = false),
    twoDigits_padded _ (Nat.zero_le _) (Nat.le_of_lt_succ minute) (by omega)
      (by decide : Char.isDigit ':' = false), seconds, fraction_fractionText [] rest]
  rfl

def Clock.asRead (c : Clock) : Clock :=
  if h : c.second < 59 ∧ billion ≤ c.nanos then
    { c with
      second := c.second + 1
      nanos := c.nanos - billion
      valid := ⟨c.valid.1, c.valid.2.1, by omega, by have := c.valid.2.2.2; omega⟩ }
  else c

def Moment.asRead (m : Moment) : Moment :=
  { m with clock := m.clock.asRead }

theorem Clock.asRead_eq_self_iff {c : Clock} : c.asRead = c ↔ c.Regular := by
  have second := c.valid.2.2.1
  rw [asRead, Regular]
  constructor
  · intro same
    split at same
    · have := congrArg Clock.second same
      dsimp only at this
      omega
    · omega
  · intro regular
    exact dif_neg (by omega)

theorem Moment.asRead_eq_self_iff {m : Moment} : m.asRead = m ↔ m.Regular := by
  rw [Regular, ← Clock.asRead_eq_self_iff]
  constructor
  · exact congrArg Moment.clock
  · intro same
    rw [asRead, same]

theorem Fields.clock?_eq_some {f : Fields} {c : Clock} (hour : f.hour = c.hour)
    (minute : f.minute = c.minute) (low : f.second ≤ 60) (fine : f.nanos < billion)
    (second : (if f.second = 60 then 59 else f.second) = c.second)
    (nanos : (if f.second = 60 then f.nanos + billion else f.nanos) = c.nanos) :
    f.clock? = some c := by
  obtain ⟨_, _, _, _, valid⟩ := c
  subst hour minute second nanos
  exact dif_pos ⟨valid.1, valid.2.1, low, fine⟩

theorem clock?_fields (m : Moment) : m.fields.clock? = some m.clock.asRead := by
  obtain ⟨date, hour, minute, second, nanos, valid⟩ := m
  have limits : second < 60 ∧ nanos < 2000000000 := valid.2.2
  have low : second + nanos / 1000000000 ≤ 60 := by omega
  have fine : nanos % 1000000000 < 1000000000 := Nat.mod_lt _ (by decide)
  by_cases leap : second < 59 ∧ 1000000000 ≤ nanos
  · have next : Clock.asRead ⟨hour, minute, second, nanos, valid⟩ = _ := dif_pos leap
    refine (Fields.clock?_eq_some rfl rfl low fine ?_ ?_).trans (congrArg some next.symm)
    · change (if second + nanos / 1000000000 = 60 then 59 else second + nanos / 1000000000) =
        second + 1
      split <;> omega
    · change (if second + nanos / 1000000000 = 60 then nanos % 1000000000 + 1000000000
        else nanos % 1000000000) = nanos - 1000000000
      split <;> omega
  · have same : Clock.asRead ⟨hour, minute, second, nanos, valid⟩ = _ := dif_neg leap
    refine (Fields.clock?_eq_some rfl rfl low fine ?_ ?_).trans (congrArg some same.symm)
    · change (if second + nanos / 1000000000 = 60 then 59 else second + nanos / 1000000000) =
        second
      split <;> omega
    · change (if second + nanos / 1000000000 = 60 then nanos % 1000000000 + 1000000000
        else nanos % 1000000000) = nanos
      split <;> omega

theorem behind_zero (m : Moment) : m.behind 0 = some m := by
  obtain ⟨date, hour, minute, second, nanos, valid⟩ := m
  have low : ¬ ((hour * 60 + minute : Nat) : Int) - 0 < 0 := by omega
  have high : ((hour * 60 + minute : Nat) : Int) - 0 < 1440 := by omega
  have minutes : (((hour * 60 + minute : Nat) : Int) - 0).toNat = hour * 60 + minute := by omega
  have hours : (hour * 60 + minute) / 60 % 24 = hour := by omega
  have rest : (hour * 60 + minute) % 60 = minute := by omega
  simp only [Moment.behind, if_neg low, if_pos high, minutes, Clock.withMinute, hours, rest]

theorem moment_fields (m : Moment) : m.fields.moment = .ok m.asRead := by
  have date : Date.of? m.fields.year m.fields.month m.fields.day = some m.date :=
    dif_pos m.date.valid
  rw [Fields.moment, date, clock?_fields]
  have behind : Moment.behind ⟨m.date, m.clock.asRead⟩ m.fields.offset = some m.asRead :=
    behind_zero m.asRead
  simp only [behind]
  rfl

theorem read_render (m : Moment) : read m.render = .ok m.asRead := by
  rw [read, Moment.render, String.toList_ofList, readChars, fields_text]
  exact moment_fields m

theorem Clock.Regular.withMinute {c : Clock} (h : c.Regular) (minute : Nat) :
    (c.withMinute minute).Regular := h

theorem Moment.Regular.behind {m m' : Moment} {minutes : Int} (h : m.Regular)
    (shifted : m.behind minutes = some m') : m'.Regular := by
  unfold Moment.behind at shifted
  dsimp only at shifted
  split at shifted
  · obtain ⟨date, -, rfl⟩ := Option.map_eq_some_iff.mp shifted
    exact Clock.Regular.withMinute h _
  · split at shifted
    · cases shifted
      exact Clock.Regular.withMinute h _
    · obtain ⟨date, -, rfl⟩ := Option.map_eq_some_iff.mp shifted
      exact Clock.Regular.withMinute h _

theorem Fields.regular_of_clock? {f : Fields} {c : Clock} (h : f.clock? = some c) : c.Regular := by
  unfold clock? at h
  split at h
  · rename_i valid
    cases h
    by_cases leap : f.second = 60
    · exact .inr (if_pos leap)
    · exact .inl (Nat.lt_of_le_of_lt (Nat.le_of_eq (if_neg leap)) valid.2.2.2)
  · cases h

theorem Fields.regular_of_moment {f : Fields} {m : Moment} (h : f.moment = .ok m) :
    m.Regular := by
  unfold moment at h
  split at h
  · rename_i date clock _ reads
    split at h
    · split at h
      · rename_i shifted
        cases h
        have regular : Moment.Regular ⟨date, clock⟩ := regular_of_clock? reads
        exact regular.behind shifted
      · cases h
    · cases h
  · cases h

/-- No text is read as a leap second within a minute. -/
theorem regular_of_read {s : String} {m : Moment} (h : read s = .ok m) : m.Regular := by
  unfold read readChars at h
  obtain ⟨⟨f, rest⟩, -, reads⟩ := bind_eq_ok.mp h
  dsimp only at reads
  split at reads
  · exact Fields.regular_of_moment reads
  · cases reads

end HttpBridge.Time
