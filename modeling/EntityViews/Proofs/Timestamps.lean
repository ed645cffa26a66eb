import EntityViews.Proofs.Numerals
import EntityViews.Calendar.DateTime

/-!
Dates and points in time as texts. Main statement: the text of a date is read as the date, and the text of a point in time
as the point in time, with any fraction of a second and any offset of whole minutes.
-/

namespace EntityViews

theorem toList_eq_data (bytes : ByteArray) : bytes.toList = bytes.data.toList := by
  -- The loop goes on behind what it has seen, which it keeps the other way round.
  have hloop : ∀ i seen, ByteArray.toList.loop bytes i seen = seen.reverse ++ bytes.data.toList.drop i := by
    intro i seen
    fun_induction ByteArray.toList.loop bytes i seen with
    | case1 i seen h ih =>
      have hi : i < bytes.data.toList.length := h
      have hget : bytes.get! i = bytes.data.toList[i] := getElem!_pos bytes.data i h
      rw [ih, List.drop_eq_getElem_cons hi, List.reverse_cons, List.append_assoc, hget]
      rfl
    | case2 i seen h =>
      rw [List.drop_eq_nil_of_le (Nat.le_of_not_lt h), List.append_nil]
  exact hloop 0 []

def AllAscii (cs : List Char) : Prop := ∀ c ∈ cs, c.toNat < 128

instance (cs : List Char) : Decidable (AllAscii cs) := List.decidableBAll (fun c : Char => c.toNat < 128) cs

namespace AllAscii

theorem append {xs ys : List Char} (hx : AllAscii xs) (hy : AllAscii ys) : AllAscii (xs ++ ys) :=
  fun c hc => (List.mem_append.mp hc).elim (hx c) (hy c)

theorem cons {c : Char} {cs : List Char} (hc : c.toNat < 128) (hcs : AllAscii cs) : AllAscii (c :: cs) :=
  List.forall_mem_cons.mpr ⟨hc, hcs⟩

theorem numeral (width n : Nat) : AllAscii (numeral 10 width n) := by
  intro c hc
  obtain ⟨_, hnine⟩ := toNat_of_isDigit (isDigit_of_mem_numeral hc)
  omega

theorem utf8Size_eq {c : Char} (h : c.toNat < 128) : c.utf8Size = 1 := by
  rw [Char.utf8Size_eq_one_iff, UInt32.le_iff_toNat_le]
  exact Nat.le_of_lt_succ h

/-- ASCII characters are one byte each. -/
theorem textBytes_eq {cs : List Char} (h : AllAscii cs) : textBytes cs = cs := by
  rw [textBytes, String.toUTF8_eq_toByteArray, String.toByteArray_ofList, toList_eq_data, List.utf8Encode,
    List.toList_data_toByteArray]
  induction cs with
  | nil => rfl
  | cons c cs ih =>
    have hc : c.toNat < 128 := h c List.mem_cons_self
    have hbyte : c.val.toUInt8.toNat = c.toNat := by
      rw [UInt32.toNat_toUInt8]
      exact Nat.mod_eq_of_lt (Nat.lt_trans hc (by decide))
    rw [List.flatMap_cons, String.utf8EncodeChar_eq_singleton (utf8Size_eq hc), List.map_append,
      ih fun d hd => h d (List.mem_cons_of_mem _ hd), List.map_singleton, hbyte, Char.ofNat_toNat]
    rfl

theorem utf8ByteSize_eq {s : String} (h : AllAscii s.toList) : s.utf8ByteSize = s.toList.length := by
  have hlength := congrArg List.length (textBytes_eq h)
  rw [textBytes, List.length_map, String.ofList_toList, toList_eq_data] at hlength
  exact hlength

end AllAscii

namespace Date

/-- A date has four digits for the year and two for the month and the day. -/
theorem bounds (d : Date) : d.year < 10 ^ 4 ∧ d.month < 10 ^ 2 ∧ d.day < 10 ^ 2 := by
  have hday := d.isDay
  simp only [namesDay, Bool.and_eq_true, decide_eq_true_eq] at hday
  have hmonth : daysInMonth d.year d.month ≤ 31 := by
    unfold daysInMonth
    split
    · split <;> decide
    · split <;> decide
  omega

theorem toList_text (d : Date) :
    d.text.toList = numeral 10 4 d.year ++ '-' :: (numeral 10 2 d.month ++ '-' :: numeral 10 2 d.day) := by
  simp [text, String.toList_append, toList_padLeft]

/-- Every date and time is written in ASCII. -/
theorem allAscii_text (d : Date) : AllAscii d.text.toList := by
  rw [toList_text]
  exact (AllAscii.numeral _ _).append (.cons (by decide) ((AllAscii.numeral _ _).append (.cons (by decide)
    (AllAscii.numeral _ _))))

theorem length_text (d : Date) : d.text.toList.length = 10 := by
  obtain ⟨hyear, hmonth, hday⟩ := d.bounds
  rw [toList_text, List.length_append, List.length_cons, List.length_append, List.length_cons,
    length_numeral (by decide) (by decide) hyear, length_numeral (by decide) (by decide) hmonth,
    length_numeral (by decide) (by decide) hday]

theorem make?_self (d : Date) : make? d.year d.month d.day = .ok d := dif_pos d.isDay

/-- What stands behind the year is no week. -/
theorem exists_month (d : Date) : ∃ c cs, numeral 10 2 d.month = c :: cs ∧ c ≠ 'W' := by
  obtain ⟨c, cs, hc, hdigit⟩ := exists_numeral 2 d.month
  exact ⟨c, cs, hc, ne_of_isDigit hdigit rfl⟩

/-- A date is read back from its text. -/
theorem readDate?_text (d : Date) : readDate? d.text.toList = some (d.year, d.month, d.day) := by
  obtain ⟨hyear, hmonth, hday⟩ := d.bounds
  obtain ⟨c, cs, hc, hweek⟩ := d.exists_month
  have hend : readDigits 2 (numeral 10 2 d.day) 0 = some (d.day, []) := readDigits_numeral_nil (by decide) hday
  have hmiddle := readDigits_numeral (by decide) hmonth ('-' :: numeral 10 2 d.day)
  rw [hc] at hmiddle
  have hyearRest := readDigits_numeral (by decide) hyear ('-' :: (c :: cs ++ '-' :: numeral 10 2 d.day))
  rw [toList_text, hc, readDate?, hyearRest]
  simp only [Option.bind_eq_bind, Option.bind_some, List.head?_cons, List.drop_succ_cons, List.drop_zero, reduceIte]
  -- The reader takes a letter behind the year for a week, but there the month begins.
  split
  · rename_i heq
    exact absurd (List.head_eq_of_cons_eq heq) hweek
  · rw [hmiddle]
    simp only [Option.bind_some, decide_true, skipHyphen, hend]
    rfl

/-- The text of a date is read as the date. -/
theorem ofText?_text (d : Date) : ofText? d.text = .ok d := by
  have hsize : d.text.utf8ByteSize = 10 := by rw [d.allAscii_text.utf8ByteSize_eq, length_text]
  simp only [ofText?, hsize, d.allAscii_text.textBytes_eq, readDate?_text, make?_self]
  rfl

end Date

/-! ### Times of day -/

def fractionChars (micro : Nat) : List Char := if micro = 0 then [] else '.' :: numeral 10 6 micro

def clockChars (hour minute second micro : Nat) : List Char :=
  numeral 10 2 hour ++ ':' :: (numeral 10 2 minute ++ ':' :: (numeral 10 2 second ++ fractionChars micro))

section Clock

variable {hour minute second micro n left : Nat} {seen : List Nat}

theorem toList_microText (micro : Nat) : (microText micro).toList = fractionChars micro := by
  rw [microText, fractionChars]
  split
  · rfl
  · rw [String.toList_append, toList_padLeft]
    rfl

theorem readFraction_numeral (h : micro < 1000000) : readFraction (numeral 10 6 micro) = some (micro, true) := by
  have hlength : (numeral 10 6 micro).length = 6 := length_numeral (by decide) (by decide) h
  have hread : readDigits 6 (numeral 10 6 micro) 0 = some (micro, []) := readDigits_numeral_nil (by decide) h
  rw [readFraction, hlength, Nat.min_self, hread]
  show some (micro * 1, true) = _
  rw [Nat.mul_one]

/-- A pair of digits before a colon is taken off. -/
theorem readPairs_colon {colons : Option Bool} {rest : List Char} (hcolons : colons ≠ some false) (hn : n < 100)
    (hrest : rest ≠ []) :
    readPairs colons (left + 1) seen (numeral 10 2 n ++ ':' :: rest) = readPairs (some true) left (n :: seen) rest := by
  obtain ⟨c, rest, rfl⟩ := List.exists_cons_of_ne_nil hrest
  rw [readPairs, readDigits_numeral (by decide) hn]
  match colons, hcolons with
  | none, _ => rfl
  | some true, _ => rfl

theorem readPairs_end {colons : Option Bool} (hn : n < 100) :
    readPairs colons (left + 1) seen (numeral 10 2 n) = some ((n :: seen).reverse, 0, true) := by
  have hread : readDigits 2 (numeral 10 2 n) 0 = some (n, []) := readDigits_numeral_nil (by decide) hn
  rw [readPairs, hread]
  rfl

/-- The last two digits of a time are read with the fraction behind them. -/
theorem readPairs_fraction (hn : n < 100) (hmicro : micro < 1000000) :
    readPairs (some true) (left + 1) seen (numeral 10 2 n ++ fractionChars micro) =
      some ((n :: seen).reverse, micro, true) := by
  rw [fractionChars]
  split
  case isTrue hzero => rw [List.append_nil, readPairs_end hn, hzero]
  case isFalse =>
    obtain ⟨c, cs, hc, -⟩ := exists_numeral 6 micro
    have hfraction := readFraction_numeral hmicro
    rw [hc] at hfraction ⊢
    rw [readPairs, readDigits_numeral (by decide) hn]
    simp [hfraction]

theorem readClock?_clockChars (hhour : hour < 100) (hminute : minute < 100) (hsecond : second < 100)
    (hmicro : micro < 1000000) :
    readClock? (clockChars hour minute second micro) = some ⟨hour, minute, second, micro, true⟩ := by
  have hne : ∀ (n : Nat) (rest : List Char), numeral 10 2 n ++ rest ≠ [] :=
    fun n rest => List.append_ne_nil_of_left_ne_nil (numeral_ne_nil 10 2 n) rest
  rw [readClock?, clockChars, readPairs_colon (by decide) hhour (hne _ _), readPairs_colon (by decide) hminute (hne _ _),
    readPairs_fraction hsecond hmicro]
  rfl

theorem readClock?_minutes (hhour : hour < 100) (hminute : minute < 100) :
    readClock? (numeral 10 2 hour ++ ':' :: numeral 10 2 minute) = some ⟨hour, minute, 0, 0, true⟩ := by
  rw [readClock?, readPairs_colon (by decide) hhour (numeral_ne_nil _ _ _), readPairs_end hminute]
  rfl

def zoneChars (n : Nat) : List Char :=
  if n / 1000000 % 60 = 0 ∧ n % 1000000 = 0 then
    numeral 10 2 (n / 1000000 / 3600) ++ ':' :: numeral 10 2 (n / 1000000 / 60 % 60)
  else clockChars (n / 1000000 / 3600) (n / 1000000 / 60 % 60) (n / 1000000 % 60) (n % 1000000)

/-- An offset is written with its sign first. -/
theorem Offset.toList_text (o : Offset) :
    o.text.toList = (if o.micros < 0 then '-' else '+') :: zoneChars o.micros.natAbs := by
  have hsign : (if o.micros < 0 then "-" else "+").toList = [if o.micros < 0 then '-' else '+'] := by
    split <;> rfl
  by_cases hwhole : o.micros.natAbs / 1000000 % 60 = 0 ∧ o.micros.natAbs % 1000000 = 0
  · simp [text, zoneChars, hwhole, hsign, toList_padLeft]
  · simp only [text, zoneChars, if_neg hwhole, clockChars, String.toList_append, hsign, toList_padLeft, toList_microText]
    simp

/-- The hours and minutes of an offset are read back. -/
theorem readClock?_zoneChars (h : n < 86400 * 1000000) : readClock? (zoneChars n) =
    some ⟨n / 1000000 / 3600, n / 1000000 / 60 % 60, n / 1000000 % 60, n % 1000000, true⟩ := by
  have hhour : n / 1000000 / 3600 < 100 := by omega
  have hminute : n / 1000000 / 60 % 60 < 100 := by omega
  rw [zoneChars]
  split
  case isTrue hwhole => rw [readClock?_minutes hhour hminute, hwhole.1, hwhole.2]
  case isFalse => exact readClock?_clockChars hhour hminute (by omega) (by omega)

/-- A time is written with digits, colons and one point. -/
theorem mem_clockChars {c : Char} (h : c ∈ clockChars hour minute second micro) :
    c.isDigit = true ∨ c = ':' ∨ c = '.' := by
  simp only [clockChars, fractionChars, List.mem_append, List.mem_cons] at h
  rcases h with h | rfl | h | rfl | h | h
  · exact .inl (isDigit_of_mem_numeral h)
  · exact .inr (.inl rfl)
  · exact .inl (isDigit_of_mem_numeral h)
  · exact .inr (.inl rfl)
  · exact .inl (isDigit_of_mem_numeral h)
  · split at h
    · exact absurd h List.not_mem_nil
    · rcases List.mem_cons.mp h with rfl | h
      · exact .inr (.inr rfl)
      · exact .inl (isDigit_of_mem_numeral h)

end Clock

namespace AllAscii

theorem clockChars (hour minute second micro : Nat) : AllAscii (clockChars hour minute second micro) := by
  intro c hc
  rcases mem_clockChars hc with h | rfl | rfl
  · obtain ⟨_, hnine⟩ := toNat_of_isDigit h
    omega
  · decide
  · decide

theorem zoneChars (n : Nat) : AllAscii (zoneChars n) := by
  unfold EntityViews.zoneChars
  split
  · exact (numeral 2 _).append (.cons (by decide) (numeral 2 _))
  · exact clockChars _ _ _ _

theorem isHalf_eq {cs : List Char} (h : AllAscii cs) {c : Char} (hc : c ∈ cs) : Text.isHalf c = false := by
  have hlow : c.toNat < 128 := h c hc
  have hhigh : ¬Text.firstStandIn ≤ c.toNat := by
    show ¬0x10f000 ≤ c.toNat
    omega
  rw [Text.isHalf, decide_eq_false hhigh, Bool.false_and]

end AllAscii

def Offset.IsLegible (o : Offset) : Prop :=
  -- The text of a smaller one is read as none.
  o.micros = 0 ∨ 1000000 ≤ o.micros.natAbs

def legible (n : Nat) : Int := if n < 1000000 then 0 else n

namespace Offset

theorem natAbs_lt (o : Offset) : o.micros.natAbs < 86400 * 1000000 := by
  have hday : microsPerDay = 86400 * 1000000 := rfl
  have hbelow := o.belowDay
  omega

/-- A legible offset is read back with its sign. -/
theorem signed_legible {o : Offset} (h : o.IsLegible) :
    (if (if o.micros < 0 then '-' else '+') = '-' then -legible o.micros.natAbs else legible o.micros.natAbs) =
      o.micros := by
  have hlegible : legible o.micros.natAbs = o.micros.natAbs := by
    rw [legible]
    split
    · rcases h with h | h <;> omega
    · rfl
  rw [hlegible]
  by_cases hsign : o.micros < 0
  · rw [if_pos hsign, if_pos rfl]
    omega
  · rw [if_neg hsign, if_neg (by decide)]
    omega

end Offset

section Zone

variable {hour minute second micro : Nat} {clock : ClockReading}

/-- A time of day reaches up to the sign of its offset. -/
theorem span_clockChars {rest : List Char} (hrest : rest = [] ∨ ∃ c cs, rest = c :: cs ∧ (c = '+' ∨ c = '-')) :
    let opensOffset := fun c => c = '+' || c = '-' || c = 'Z'
    ((clockChars hour minute second micro ++ rest).takeWhile fun c => !opensOffset c) =
        clockChars hour minute second micro ∧
      ((clockChars hour minute second micro ++ rest).dropWhile fun c => !opensOffset c) = rest := by
  intro opensOffset
  -- A time of day is made of digits, colons and a point, none of which opens an offset.
  have hclock : ∀ c ∈ clockChars hour minute second micro, (!opensOffset c) = true := by
    intro c hc
    rcases mem_clockChars hc with h | rfl | rfl
    · have hne : ∀ d : Char, d.isDigit = false → c ≠ d := fun _ hd => ne_of_isDigit h hd
      simp [opensOffset, hne '+' rfl, hne '-' rfl, hne 'Z' rfl]
    · rfl
    · rfl
  rw [List.takeWhile_append_of_pos hclock, List.dropWhile_append_of_pos hclock]
  rcases hrest with rfl | ⟨c, cs, rfl, rfl | rfl⟩
  · exact ⟨List.append_nil _, rfl⟩
  · exact ⟨List.append_nil _, rfl⟩
  · exact ⟨List.append_nil _, rfl⟩

theorem readTime?_clock (hclock : readClock? (clockChars hour minute second micro) = some clock)
    (hcomplete : clock.complete = true) :
    readTime? (clockChars hour minute second micro) = some (clock, none) := by
  obtain ⟨htake, hdrop⟩ := @span_clockChars hour minute second micro [] (.inl rfl)
  rw [List.append_nil] at htake hdrop
  simp only [readTime?]
  rw [htake, hdrop, hclock]
  simp [hcomplete]

/-- A time with an offset is read back as both. -/
theorem readTime?_zone {n : Nat} {sign : Char} (hclock : readClock? (clockChars hour minute second micro) = some clock)
    (hsign : sign = '+' ∨ sign = '-') (hn : n < 86400 * 1000000) :
    readTime? (clockChars hour minute second micro ++ sign :: zoneChars n) =
      some (clock, some (if sign = '-' then -legible n else legible n)) := by
  obtain ⟨htake, hdrop⟩ := @span_clockChars hour minute second micro (sign :: zoneChars n) (.inr ⟨sign, _, rfl, hsign⟩)
  simp only [readTime?]
  -- Hours, minutes and seconds add up to the seconds that they were cut from.
  have hseconds : (n : Int) / 1000000 / 3600 * 3600 + (n : Int) / 1000000 / 60 % 60 * 60 + (n : Int) / 1000000 % 60 =
      (n : Int) / 1000000 := by omega
  have hmicros : (if (n : Int) / 1000000 = 0 then 0 else (n : Int) / 1000000 * microsPerSecond + (n : Int) % 1000000) =
      legible n := by
    rw [legible, show microsPerSecond = 1000000 from rfl]
    split <;> split <;> omega
  rw [htake, hdrop, hclock]
  rcases hsign with rfl | rfl
  · simp [readClock?_zoneChars hn, hseconds, hmicros]
  · simp [readClock?_zoneChars hn, hseconds, hmicros]

end Zone

namespace DateTime

def zoneText (t : DateTime) : List Char := (t.offset.elim "" Offset.text).toList

theorem toList_text (t : DateTime) : t.text.toList =
    t.date.text.toList ++ 'T' :: (clockChars t.hour t.minute t.second t.micro ++ t.zoneText) := by
  simp only [text, textWith, clockText, String.toList_append, toList_padLeft, toList_microText, zoneText, clockChars]
  cases t.offset <;> simp

theorem allAscii_text (t : DateTime) : AllAscii t.text.toList := by
  have hzone : AllAscii t.zoneText := by
    rw [zoneText]
    cases t.offset with
    | none => exact fun _ h => absurd h List.not_mem_nil
    | some o =>
      rw [Option.elim_some, Offset.toList_text]
      refine .cons ?_ (.zoneChars _)
      split <;> decide
  rw [toList_text]
  exact t.date.allAscii_text.append (.cons (by decide) ((AllAscii.clockChars _ _ _ _).append hzone))

/-- A time of day and its offset are read as they are. -/
theorem readTime?_text (t : DateTime) (h : ∀ o, t.offset = some o → o.IsLegible) :
    readTime? (clockChars t.hour t.minute t.second t.micro ++ t.zoneText) =
      some (⟨t.hour, t.minute, t.second, t.micro, true⟩, t.offset.map Offset.micros) := by
  obtain ⟨hhour, hminute, hsecond, hmicro⟩ := t.inDay
  have hclock := readClock?_clockChars (Nat.lt_trans hhour (by decide)) (Nat.lt_trans hminute (by decide))
    (Nat.lt_trans hsecond (by decide)) hmicro
  cases ho : t.offset with
  | none =>
    have hzone : t.zoneText = [] := by
      rw [zoneText, ho]
      rfl
    rw [hzone, List.append_nil, readTime?_clock hclock rfl]
    rfl
  | some o =>
    have hzone : t.zoneText = (if o.micros < 0 then '-' else '+') :: zoneChars o.micros.natAbs := by
      rw [zoneText, ho]
      exact o.toList_text
    rw [hzone, readTime?_zone hclock (by split <;> simp) o.natAbs_lt, Offset.signed_legible (h o ho)]
    rfl

/-- A text in ASCII has no halves of characters in it. -/
theorem withoutHalves?_ascii {cs : List Char} (h : AllAscii cs) : withoutHalves? cs = some cs := by
  have hhalf : ∀ i : Nat, ((cs[i]?.map Text.isHalf).getD false) = false := by
    intro i
    cases hi : cs[i]? with
    | none => rfl
    | some c => exact h.isHalf_eq (List.mem_of_getElem? hi)
  have hany : cs.any Text.isHalf = false := List.any_eq_false.mpr fun c hc => Bool.eq_false_iff.mp (h.isHalf_eq hc)
  have hfind : [7, 8, 10].find? (fun i : Nat => (cs[i]?.map Text.isHalf).getD false) = none :=
    List.find?_eq_none.mpr fun i _ => Bool.eq_false_iff.mp (hhalf i)
  simp only [withoutHalves?, hfind, hany]
  rfl

/-- A date before a separator is as long as it is written. -/
theorem dateLength_text (d : Date) (rest : List Char) : dateLength (d.text.toList ++ 'T' :: rest) = 10 := by
  obtain ⟨hyear, -⟩ := d.bounds
  obtain ⟨c, cs, hc, hmonth⟩ := d.exists_month
  have hyearLength : (numeral 10 4 d.year).length = 4 := length_numeral (by decide) (by decide) hyear
  have hlength : (d.text.toList ++ 'T' :: rest).length ≠ 7 := by
    rw [List.length_append, d.length_text]
    omega
  have hhyphen : (d.text.toList ++ 'T' :: rest)[4]? = some '-' := by
    rw [Date.toList_text, List.append_assoc, List.getElem?_append_right (Nat.le_of_eq hyearLength), hyearLength]
    rfl
  have hweek : (d.text.toList ++ 'T' :: rest)[5]? ≠ some 'W' := by
    rw [Date.toList_text, List.append_assoc, List.getElem?_append_right (by omega), hyearLength, hc]
    exact fun heq => hmonth (Option.some.inj heq)
  simp only [dateLength, if_neg hlength, if_pos hhyphen, if_neg hweek]

end DateTime

/-- The text of a point in time is read as the point in time. -/
theorem DateTime.ofText?_text (t : DateTime) (h : ∀ o, t.offset = some o → o.IsLegible) : ofText? t.text = .ok t := by
  have hlength : ¬t.text.length < 7 := by
    rw [← String.length_toList, toList_text, List.length_append, t.date.length_text]
    omega
  have htake : (t.text.toList).take 10 = t.date.text.toList := by
    rw [toList_text, ← t.date.length_text, List.take_left]
  have hdrop : (t.text.toList).drop 10 = 'T' :: (clockChars t.hour t.minute t.second t.micro ++ t.zoneText) := by
    rw [toList_text, ← t.date.length_text, List.drop_left]
  have hcut : dateLength t.text.toList = 10 := by rw [toList_text, dateLength_text]
  have hskip : byteCount 'T' - 1 = 0 := rfl
  simp only [ofText?, if_neg hlength, withoutHalves?_ascii t.allAscii_text, Option.bind_eq_bind, Option.bind_some,
    t.allAscii_text.textBytes_eq, hcut, htake, t.date.readDate?_text, hdrop, hskip, List.drop_zero, t.readTime?_text h]
  -- All numbers are in range again, since they come from a date, a time of day and an offset.
  have hmake : make? t.date t.hour t.minute t.second t.micro t.offset = .ok t := dif_pos t.inDay
  cases ho : t.offset with
  | none =>
    rw [ho] at hmake
    simp only [Option.map_none, Option.pure_def, t.date.make?_self]
    exact hmake
  | some o =>
    have hoffset : Offset.make? o.micros = .ok o := dif_pos o.belowDay
    rw [ho] at hmake
    simp only [Option.map_some, Option.pure_def, t.date.make?_self, hoffset]
    exact hmake

end EntityViews
