import CertRenewal.Expiry.Check
import CertRenewal.Proofs.Calendar.Years
import CertRenewal.Proofs.Faults

/-!
# Every date of a certificate is one of the calendar

The two forms of a time have room for four digits of a year at most, and for a zone of less than two
days. So each time that can be read lies in the years 0 to 9999 (`ofElement_bounds`), and this is
handed up through the parts of a certificate. `certificateExpiry_outcomes` is the main statement: of
the three errors that reading a certificate could end with, the one of a date outside the calendar
never arises.
-/

namespace CertRenewal

/-- The seconds lie in the years 0 to 9999. -/
def Instant.HasShortYear (seconds : Int) : Prop :=
  Date.dayNumber ⟨0, 1, 1⟩ * secondsPerDay ≤ seconds ∧
    seconds < Date.dayNumber ⟨10000, 1, 1⟩ * secondsPerDay

theorem Instant.hasShortYear_iff {seconds : Int} :
    HasShortYear seconds ↔ -62167219200 ≤ seconds ∧ seconds < 253402300800 := by
  have hfirst : Date.dayNumber ⟨0, 1, 1⟩ * secondsPerDay = -62167219200 := by decide
  have hlast : Date.dayNumber ⟨10000, 1, 1⟩ * secondsPerDay = 253402300800 := by decide
  rw [HasShortYear, hfirst, hlast]

/-- The calendar covers the years 0 to 9999. -/
theorem Instant.HasShortYear.isSupported {seconds : Int} (h : HasShortYear seconds) :
    isSupported seconds = true := by
  rw [hasShortYear_iff] at h
  simp only [Instant.isSupported, Bool.and_eq_true, decide_eq_true_eq]
  omega

theorem Instant.HasShortYear.year_date {seconds : Int} (h : HasShortYear seconds) :
    0 ≤ (ofSeconds seconds).date.year ∧ (ofSeconds seconds).date.year ≤ 9999 :=
  year_date_bounds h.1 h.2

namespace Certificate

/-! ## Times -/

namespace Time

theorem digit?_le {b : UInt8} {d : Nat} (h : digit? b = some d) : d ≤ 9 := by
  unfold digit? at h
  split at h
  · next hrange =>
    have hle : b.toNat ≤ 57 := UInt8.le_iff_toNat_le.mp hrange.2
    cases h
    omega
  · cases h

/-- Two digits make a number below one hundred. -/
theorem twoDigits_le {bytes rest : List UInt8} {n : Nat} (h : twoDigits bytes = some (n, rest)) :
    n ≤ 99 := by
  unfold twoDigits at h
  split at h
  · simp only [Option.bind_eq_bind, Option.bind_eq_some_iff, Option.pure_def, Option.some.injEq,
      Prod.mk.injEq] at h
    obtain ⟨tens, htens, ones, hones, hn, -⟩ := h
    have := digit?_le htens
    have := digit?_le hones
    omega
  · cases h

/-- Fields that can be read are those of a time of the year. -/
theorem exists?_of_fieldsAfterYear {year : Int} {bytes rest : List UInt8} {f : Fields}
    (h : fieldsAfterYear year bytes = some (f, rest)) : f.exists? = true ∧ f.date.year = year := by
  simp only [fieldsAfterYear, Option.bind_eq_bind, Option.bind_eq_some_iff] at h
  obtain ⟨month, -, day, -, hour, -, minute, -, h⟩ := h
  -- The seconds are read, or are zero where nothing follows that could be them.
  have hend : ∃ second : Nat × List UInt8,
      (if (Fields.mk ⟨year, month.1, day.1⟩ hour.1 minute.1 second.1).exists? = true then
        some (Fields.mk ⟨year, month.1, day.1⟩ hour.1 minute.1 second.1, second.2)
      else none) = some (f, rest) := by
    split at h
    · exact ⟨_, h⟩
    · obtain ⟨second, -, h⟩ := Option.bind_eq_some_iff.mp h
      exact ⟨second, h⟩
  obtain ⟨second, h⟩ := hend
  split at h
  · next hexists =>
    cases h
    exact ⟨hexists, rfl⟩
  · cases h

/-- The seconds of fields lie in their year. -/
theorem Fields.seconds_bounds {f : Fields} (h : f.exists? = true) :
    Date.dayNumber ⟨f.date.year, 1, 1⟩ * Instant.secondsPerDay ≤ f.seconds ∧
      f.seconds < Date.dayNumber ⟨f.date.year + 1, 1, 1⟩ * Instant.secondsPerDay := by
  simp only [Fields.exists?, Bool.and_eq_true, decide_eq_true_eq] at h
  obtain ⟨⟨⟨hdate, hhour⟩, hminute⟩, hsecond⟩ := h
  exact Instant.ofCivil_bounds hdate hhour hminute hsecond

/-- Fields between two years. -/
theorem Fields.seconds_between {f : Fields} (h : f.exists? = true) {first last : Int}
    (hfirst : first ≤ f.date.year) (hlast : f.date.year ≤ last) :
    Date.dayNumber ⟨first, 1, 1⟩ * Instant.secondsPerDay ≤ f.seconds ∧
      f.seconds < Date.dayNumber ⟨last + 1, 1, 1⟩ * Instant.secondsPerDay := by
  obtain ⟨hstart, hend⟩ := seconds_bounds h
  have hmono := Date.dayNumber_newYear_mono hfirst
  have hmono' := Date.dayNumber_newYear_mono (show f.date.year + 1 ≤ last + 1 by omega)
  unfold Instant.secondsPerDay at *
  omega

/-- A zone lies less than 26 hours from UTC. -/
theorem zone_bounds {bytes : List UInt8} {offset : Int} (h : zone bytes = some offset) :
    -93600 < offset ∧ offset < 93600 := by
  unfold zone at h
  split at h
  · cases h
    omega
  · simp only [Option.bind_eq_bind, Option.bind_eq_some_iff] at h
    obtain ⟨⟨hours, rest⟩, -, ⟨minutes, rest'⟩, -, h⟩ := h
    dsimp only at h
    split_ifs at h with hrange hahead hbehind
    all_goals
      cases h
      omega
  · cases h

/-- The year of two digits. -/
theorem fullYear_bounds {yy : Nat} (h : yy ≤ 99) : 1950 ≤ fullYear yy ∧ fullYear yy ≤ 2049 := by
  unfold fullYear
  split <;> omega

/-- A time with two digits of the year lies in the years 0 to 9999, whatever its zone. -/
theorem utc_bounds {bytes : List UInt8} {seconds : Int} (h : utc bytes = some seconds) :
    Instant.HasShortYear seconds := by
  simp only [utc, Option.bind_eq_bind, Option.bind_eq_some_iff, Option.pure_def,
    Option.some.injEq] at h
  obtain ⟨⟨yy, rest⟩, hyear, ⟨f, rest'⟩, hfields, offset, hzone, rfl⟩ := h
  obtain ⟨hexists, hfull⟩ := exists?_of_fieldsAfterYear hfields
  obtain ⟨hleast, hmost⟩ := fullYear_bounds (twoDigits_le hyear)
  obtain ⟨hstart, hend⟩ := Fields.seconds_between hexists (hfull ▸ hleast) (hfull ▸ hmost)
  obtain ⟨hahead, hbehind⟩ := zone_bounds hzone
  -- The window of a century is far from both ends of the calendar, so that no zone matters.
  have hfirst : Date.dayNumber ⟨1950, 1, 1⟩ * Instant.secondsPerDay = -631152000 := by decide
  have hlast : Date.dayNumber ⟨2049 + 1, 1, 1⟩ * Instant.secondsPerDay = 2524608000 := by decide
  rw [hfirst] at hstart
  rw [hlast] at hend
  rw [Instant.hasShortYear_iff]
  dsimp only
  omega

/-- So does a time with four digits of the year. -/
theorem generalized_bounds {bytes : List UInt8} {seconds : Int}
    (h : generalized bytes = some seconds) : Instant.HasShortYear seconds := by
  simp only [generalized, Option.bind_eq_bind, Option.bind_eq_some_iff] at h
  obtain ⟨⟨century, rest⟩, hcentury, ⟨yy, rest'⟩, hyear, ⟨f, rest''⟩, hfields, h⟩ := h
  have hhigh := twoDigits_le hcentury
  have hlow := twoDigits_le hyear
  obtain ⟨hexists, hfull⟩ := exists?_of_fieldsAfterYear hfields
  have hbetween := Fields.seconds_between hexists (show 0 ≤ f.date.year by omega)
    (show f.date.year ≤ 9999 by omega)
  split at h
  · cases h
    exact hbetween
  · cases h

theorem ofElement_bounds {e : Der.Element} {seconds : Int} (h : ofElement e = some seconds) :
    Instant.HasShortYear seconds := by
  unfold ofElement at h
  split at h
  · split at h
    · exact utc_bounds h
    · exact generalized_bounds h
    · cases h
  · cases h

theorem read_bounds {bytes rest : List UInt8} {seconds : Int}
    (h : read bytes = .ok (seconds, rest)) : Instant.HasShortYear seconds := by
  unfold read at h
  split at h
  · cases h
  · split at h
    · next hseconds =>
      cases h
      exact ofElement_bounds hseconds
    · cases h

end Time

/-! ## Certificates -/

theorem validityEnd_bounds {bytes rest : List UInt8} {seconds : Int}
    (h : validityEnd bytes = .ok (seconds, rest)) : Instant.HasShortYear seconds := by
  obtain ⟨⟨content, behind⟩, -, h⟩ := exists_of_bind_ok h
  obtain ⟨⟨notBefore, content'⟩, -, h⟩ := exists_of_bind_ok h
  obtain ⟨⟨notAfter, content''⟩, hread, h⟩ := exists_of_bind_ok h
  cases h
  exact Time.read_bounds hread

theorem bodyNotAfter_bounds {bytes : List UInt8} {seconds : Int}
    (h : bodyNotAfter bytes = .ok seconds) : Instant.HasShortYear seconds := by
  obtain ⟨version, -, h⟩ := exists_of_bind_ok h
  obtain ⟨serial, -, h⟩ := exists_of_bind_ok h
  obtain ⟨algorithm, -, h⟩ := exists_of_bind_ok h
  obtain ⟨issuer, -, h⟩ := exists_of_bind_ok h
  obtain ⟨⟨notAfter, validity⟩, hvalidity, h⟩ := exists_of_bind_ok h
  obtain ⟨subject, -, h⟩ := exists_of_bind_ok h
  obtain ⟨key, -, h⟩ := exists_of_bind_ok h
  obtain ⟨issuerId, -, h⟩ := exists_of_bind_ok h
  obtain ⟨subjectId, -, h⟩ := exists_of_bind_ok h
  obtain ⟨extensions, -, h⟩ := exists_of_bind_ok h
  cases h
  exact validityEnd_bounds hvalidity

/-- Whatever is read as the end of a certificate is an instant of the calendar. -/
theorem derNotAfter_bounds {der : List UInt8} {seconds : Int}
    (h : derNotAfter der = .ok seconds) : Instant.HasShortYear seconds := by
  obtain ⟨⟨certificate, behind⟩, -, h⟩ := exists_of_bind_ok h
  obtain ⟨⟨body, certificate'⟩, -, h⟩ := exists_of_bind_ok h
  obtain ⟨notAfter, hbody, h⟩ := exists_of_bind_ok h
  obtain ⟨signature, -, h⟩ := exists_of_bind_ok h
  split at h
  · cases h
    exact bodyNotAfter_bounds hbody
  · cases h

/-- Reading a certificate ends with an instant of the calendar, or with the error of one of the two
layers. -/
theorem notAfter_cases (pem : List UInt8) :
    (∃ seconds, notAfter pem = .ok (Instant.ofSeconds seconds) ∧ Instant.HasShortYear seconds) ∨
      (∃ cause, notAfter pem = .error (.pem cause)) ∨
      ∃ cause, notAfter pem = .error (.der cause) := by
  unfold notAfter
  split
  · next cause _ => exact .inr (.inl ⟨cause, rfl⟩)
  · split
    · next cause _ => exact .inr (.inr ⟨cause, rfl⟩)
    · next der _ seconds hder =>
      have hbounds := derNotAfter_bounds hder
      rw [if_pos hbounds.isSupported]
      exact .inl ⟨seconds, rfl, hbounds⟩

end Certificate

namespace Expiry

/-- Reading a certificate from bytes gives an instant without nanoseconds in the years 0 to 9999, or
an error of the PEM armour or of the encoding inside it that names where the certificate is from.
The error of a date outside the calendar never arises, since the calendar has every time that an
encoding can be read to have. -/
theorem certificateExpiry_outcomes (origin : String) (pem : List UInt8) :
    ((∃ t, certificateExpiry origin pem = .ok t ∧ t.nanos = 0 ∧
          0 ≤ t.date.year ∧ t.date.year ≤ 9999) ∨
        (∃ cause, certificateExpiry origin pem = .error (.certificate origin (.pem cause))) ∨
        ∃ cause, certificateExpiry origin pem = .error (.certificate origin (.der cause))) ∧
      (∀ source, certificateExpiry origin pem ≠ .error (.certificate source .date)) ∧
      ∀ der seconds, Certificate.derNotAfter der = .ok seconds →
        Instant.isSupported seconds = true := by
  have hcases : (∃ t, certificateExpiry origin pem = .ok t ∧ t.nanos = 0 ∧
        0 ≤ t.date.year ∧ t.date.year ≤ 9999) ∨
      (∃ cause, certificateExpiry origin pem = .error (.certificate origin (.pem cause))) ∨
      ∃ cause, certificateExpiry origin pem = .error (.certificate origin (.der cause)) := by
    unfold certificateExpiry
    rcases Certificate.notAfter_cases pem with ⟨seconds, h, hyear⟩ | ⟨cause, h⟩ | ⟨cause, h⟩
    · exact .inl ⟨_, by rw [h]; rfl, rfl, hyear.year_date⟩
    · exact .inr (.inl ⟨cause, by rw [h]; rfl⟩)
    · exact .inr (.inr ⟨cause, by rw [h]; rfl⟩)
  refine ⟨hcases, ?_, fun der seconds h => (Certificate.derNotAfter_bounds h).isSupported⟩
  intro source hdate
  rcases hcases with ⟨t, h, -⟩ | ⟨cause, h⟩ | ⟨cause, h⟩ <;>
    · rw [h] at hdate
      cases hdate

/-- A certificate that ends with the first minute of the window of two-digit years, in the zone that
takes it farthest back. -/
def zonedCertificate : List UInt8 :=
  [0x30, 65, 0x30, 56, 2, 1, 1, 0x30, 2, 6, 0, 0x30, 0, 0x30, 34, 23, 13] ++
    Text.Utf8.encode "490101000000Z".toList ++ [23, 17] ++
    Text.Utf8.encode "500101000000+2559".toList ++
    [0x30, 0, 0x30, 7, 0x30, 2, 6, 0, 3, 1, 0, 0x30, 2, 6, 0, 3, 1, 0]

/-- The zone takes the end of the certificate back to 1949. -/
theorem certificateExpiry_outcomes_of_zone :
    Certificate.derNotAfter zonedCertificate = .ok (-631245540) ∧
      Instant.isSupported (-631245540) = true := by
  have hread : Certificate.derNotAfter zonedCertificate = .ok (-631245540) := by decide +kernel
  exact ⟨hread, (certificateExpiry_outcomes "" []).2.2 _ _ hread⟩

end Expiry

end CertRenewal
