/-
This file proves that a key tells what it was made of. Names may look like times, ids and numbers,
so a key is read from its end: its last dot is that of the extension, the last underscore before it
is that of the id, and the time in front of the id has a fixed width. What is left is the stem with
its number. So two files have one key only if all of this is the same, the id of the record first.
-/

import ApplicationLedger.Proofs.Blob.RecordId

namespace ApplicationLedger.BlobKey

/-! ### The time in a key -/

theorem padded_injective {width value value' : Nat}
    (same : Instant.padded width value = Instant.padded width value') : value = value' := by
  rw [← Instant.digitsValue_padded width value, same, Instant.digitsValue_padded]

/-- What a key tells of the time it was made at. -/
structure SameStamp (time time' : Instant) : Prop where
  hour : time.hour = time'.hour
  minute : time.minute = time'.minute
  day : time.date.day = time'.date.day
  month : time.date.month = time'.date.month
  yearOfCentury : time.date.year % 100 = time'.date.year % 100

/-- Each field of a time has two digits, in whatever year it lies. -/
theorem length_fields (time : Instant) :
    (Instant.padded 2 time.hour).length = 2 ∧ (Instant.padded 2 time.minute).length = 2 ∧
      (Instant.padded 2 time.date.day).length = 2 ∧
      (Instant.padded 2 time.date.month).length = 2 ∧
      (Instant.padded 2 (time.date.year % 100).toNat).length = 2 := by
  obtain ⟨hour, minute⟩ := time.hourMinute_bounds
  obtain ⟨⟨-, month⟩, -, day⟩ := Date.isWithin_ofDays (time.second / 86400)
  have longest := Date.monthLength_le time.date.year time.date.month
  have twoDigits {value : Nat} (bound : value < 10 ^ 2) : (Instant.padded 2 value).length = 2 :=
    Instant.length_padded 2 (by decide) bound
  refine ⟨twoDigits hour, twoDigits minute, twoDigits ?_, twoDigits ?_, twoDigits ?_⟩
  · exact Nat.lt_of_le_of_lt (Nat.le_trans day longest) (by decide)
  · exact Nat.lt_of_le_of_lt month (by decide)
  · omega

theorem length_stamp (time : Instant) : (stamp time).length = 11 := by
  obtain ⟨hour, minute, day, month, year⟩ := length_fields time
  simp only [stamp, List.length_append, List.length_cons, hour, minute, day, month, year]

/-- The time in a key tells its fields. -/
theorem sameStamp_of_stamp_eq {time time' : Instant} (same : stamp time = stamp time') :
    SameStamp time time' := by
  obtain ⟨hour, minute, day, month, -⟩ := length_fields time
  obtain ⟨hour', minute', day', month', -⟩ := length_fields time'
  simp only [stamp, List.append_assoc, List.cons_append] at same
  obtain ⟨sameHour, same⟩ := List.append_inj same (hour.trans hour'.symm)
  obtain ⟨sameMinute, same⟩ := List.append_inj same (minute.trans minute'.symm)
  obtain ⟨sameDay, same⟩ := List.append_inj (List.cons.inj same).2 (day.trans day'.symm)
  obtain ⟨sameMonth, sameYear⟩ := List.append_inj same (month.trans month'.symm)
  have years := padded_injective sameYear
  refine ⟨padded_injective sameHour, padded_injective sameMinute, padded_injective sameDay,
    padded_injective sameMonth, ?_⟩
  omega

/-! ### The parts of a key -/

/-- A key is made of one stem, one extension, one id and one time. -/
theorem format_inj {stem stem' extension extension' : List Char} {id id' : String}
    {time time' : Instant} (isExtension : IsExtension extension)
    (isExtension' : IsExtension extension') (dotless : extension = [] → '.' ∉ stem)
    (dotless' : extension' = [] → '.' ∉ stem') (idDotless : '.' ∉ id.toList)
    (idDotless' : '.' ∉ id'.toList) (noUnderscore : '_' ∉ id.toList)
    (noUnderscore' : '_' ∉ id'.toList)
    (same : format stem extension id time = format stem' extension' id' time') :
    stem = stem' ∧ extension = extension' ∧ id = id' ∧ SameStamp time time' := by
  have split := splitExtension_format time isExtension dotless idDotless
  rw [same, splitExtension_format time' isExtension' dotless' idDotless'] at split
  obtain ⟨front, sameExtension⟩ := Prod.mk.inj split
  obtain ⟨front, sameId⟩ := append_underscore_inj noUnderscore' noUnderscore front
  have width : ('-' :: stamp time').length = ('-' :: stamp time).length := by
    rw [List.length_cons, List.length_cons, length_stamp, length_stamp]
  obtain ⟨sameStem, sameTime⟩ := List.append_inj' front width
  exact ⟨sameStem.symm, sameExtension.symm, String.toList_inj.mp sameId.symm,
    sameStamp_of_stamp_eq (List.cons.inj sameTime).2.symm⟩

/-! ### The parts of the key of a file -/

section Make

variable {name name' id id' : String} {above stem extension above' stem' extension' : List Char}
  {time time' : Instant} {taken taken' : List String}

/-- If two files have one key, whatever was taken before, they belong to one record, were stored at
one time as far as a key tells it, and have one extension; and their stems are the same with their
numbers. So files of different records never have one key. -/
theorem parts_eq_of_make_eq (named : IsMadeOf name above stem extension)
    (named' : IsMadeOf name' above' stem' extension') (dotless : '.' ∉ id.toList)
    (dotless' : '.' ∉ id'.toList) (noUnderscore : '_' ∉ id.toList)
    (noUnderscore' : '_' ∉ id'.toList)
    (same : make name id time taken = make name' id' time' taken') :
    id = id' ∧ SameStamp time time' ∧ extension = extension' ∧
      ∃ number number', 1 ≤ number ∧ 1 ≤ number' ∧
        make name id time taken = numbered stem extension id time number ∧
        make name' id' time' taken' = numbered stem' extension' id' time' number' ∧
        numberedStem stem number = numberedStem stem' number' := by
  obtain ⟨number, isFirst, -, equal⟩ := named.exists_make_eq id time taken
  obtain ⟨number', isFirst', -, equal'⟩ := named'.exists_make_eq id' time' taken'
  have dotlessStem (empty : extension = []) : '.' ∉ numberedStem stem number :=
    mt (mem_numberedStem_iff rfl number).mp (named.dotless empty)
  have dotlessStem' (empty : extension' = []) : '.' ∉ numberedStem stem' number' :=
    mt (mem_numberedStem_iff rfl number').mp (named'.dotless empty)
  obtain ⟨sameStem, sameExtension, sameId, sameTime⟩ :=
    format_inj named.isExtension named'.isExtension dotlessStem dotlessStem' dotless dotless'
      noUnderscore noUnderscore' ((equal.symm.trans same).trans equal')
  exact ⟨sameId, sameTime, sameExtension, number, number', isFirst.atLeast, isFirst'.atLeast,
    equal, equal', sameStem⟩

end Make

/-- The second file of a name has the key that the first file of a name with that number gets a
hundred years later. -/
theorem parts_eq_of_make_eq_centuryLater :
    IsMadeOf "docs/cv.pdf" "docs/".toList "cv".toList ".pdf".toList ∧
      IsMadeOf "cv (2).pdf" [] "cv (2)".toList ".pdf".toList ∧
      make "docs/cv.pdf" "a" ⟨0, 0⟩ ["cv-0000-010170_a.pdf"] =
        make "cv (2).pdf" "a" ⟨3155760000, 0⟩ [] ∧
      SameStamp ⟨0, 0⟩ ⟨3155760000, 0⟩ ∧
      ∃ number number', 1 ≤ number ∧ 1 ≤ number' ∧
        numberedStem "cv".toList number = numberedStem "cv (2)".toList number' := by
  have named : IsMadeOf "docs/cv.pdf" "docs/".toList "cv".toList ".pdf".toList :=
    isMadeOf_cv
  have named' : IsMadeOf "cv (2).pdf" [] "cv (2)".toList ".pdf".toList :=
    ⟨rfl, .inl rfl, by simp [IsSeparator], .inr ⟨"pdf".toList, rfl, by decide⟩, nofun⟩
  have same : make "docs/cv.pdf" "a" ⟨0, 0⟩ ["cv-0000-010170_a.pdf"] =
      make "cv (2).pdf" "a" ⟨3155760000, 0⟩ [] := rfl
  obtain ⟨-, sameTime, -, number, number', positive, positive', -, -, sameStem⟩ :=
    parts_eq_of_make_eq named named' (by decide) (by decide) (by decide) (by decide) same
  exact ⟨named, named', same, sameTime, number, number', positive, positive', sameStem⟩

end ApplicationLedger.BlobKey
