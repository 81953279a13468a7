import LineMetrics.Proofs.Number.Rounding
import LineMetrics.Proofs.Settings.Outcome
import LineMetrics.Scanner

/-!
# The greatest size of a file

The greatest size is set in megabytes, and the rule about it refuses what is at most 0
(specification, section 8).  What passes is a number of bytes, unless it is a real number that
compares below no bound or only below those that are too great: not a number, an infinity, or a
number whose product with 1024 twice is rounded to an infinity (`Binary64.bytes_cases`).  Such a
setting is accepted like any other and shows only when a file is read, whatever its size, by a fault
that is about no file.
-/

namespace LineMetrics

namespace Binary64

/-- Whether a float is less than a whole number is decided by their values. -/
theorem lessThan_iff {m : Nat} {e n : Int} :
    (finite false m e).lessThan n = true ↔ (m : ℚ) * 2 ^ e < n := by
  obtain ⟨hden, hvalue⟩ := magnitude_spec m e
  rw [← hvalue, div_lt_iff₀ (Nat.cast_pos.2 hden)]
  simp only [lessThan, Bool.false_eq_true, if_false, decide_eq_true_eq]
  exact_mod_cast Iff.rfl

/-- A number that is neither below 0 nor 0 has no sign, unless it is not a number. -/
theorem cases_of_positive {x : Binary64} (hneg : x.lessThan 0 = false)
    (hzero : x.equals 0 = false) :
    x = .nan ∨ x = .infinite false ∨ ∃ m e, x = .finite false m e := by
  cases x with
  | nan => exact .inl rfl
  | infinite negative => exact .inr (.inl (congrArg infinite hneg))
  | finite negative m e =>
    cases negative with
    | false => exact .inr (.inr ⟨m, e, rfl⟩)
    | true =>
      simp only [lessThan, equals, if_true, zero_mul, decide_eq_false_iff_not] at hneg hzero
      omega

/-- **1024 times a number**: the power of two that it is halfway below moves by ten. -/
theorem scaleBy_1024_cases (negative : Bool) (m : Nat) (e : Int) :
    (scaleBy 1024 (.finite negative m e) = .infinite negative ∧
        halfwayBelow 1014 ≤ m * 2 ^ e) ∨
      ∃ m' e', scaleBy 1024 (.finite negative m e) = .finite negative m' e' ∧
        (m : ℚ) * 2 ^ e < halfwayBelow 1014 ∧
        ∀ k, minExponent + 53 ≤ k →
          (halfwayBelow k ≤ m' * 2 ^ e' ↔ halfwayBelow (k - 10) ≤ m * 2 ^ e) := by
  obtain ⟨hden, hvalue⟩ := magnitude_spec m e
  have hproduct : (((magnitude m e).1 * 1024 : Nat) : ℚ) / (magnitude m e).2 =
      m * 2 ^ e * 2 ^ (10 : Int) := by
    rw [Nat.cast_mul, mul_div_right_comm, hvalue]
    norm_num
  have hside : ∀ k, halfwayBelow k ≤ (m : ℚ) * 2 ^ e * 2 ^ (10 : Int) ↔
      halfwayBelow (k - 10) ≤ m * 2 ^ e := fun k => halfwayBelow_le_mul_iff k 10 _
  rcases @ofQuotient_cases ((magnitude m e).1 * 1024) _ negative hden with
    ⟨hinfinite, hlimit⟩ | ⟨m', e', hfinite, hlimit, hsides⟩
  · rw [hproduct, hside] at hlimit
    exact .inl ⟨hinfinite, hlimit⟩
  · rw [hproduct, ← not_le, hside] at hlimit
    refine .inr ⟨m', e', hfinite, not_le.1 hlimit, fun k hk => ?_⟩
    rw [hsides k hk, hproduct, hside]

/-- The first number of megabytes whose bytes are rounded to an infinity. -/
def boundlessFrom : Int := (2 ^ 54 - 1) * 2 ^ 950

/-- The bound from which a size is boundless is a halfway point. -/
theorem cast_boundlessFrom : (boundlessFrom : ℚ) = halfwayBelow 1004 := by
  rw [boundlessFrom, halfwayBelow, show (1004 : Int) - 54 = (950 : Nat) from rfl, zpow_natCast]
  rw [Int.cast_mul, Int.cast_sub, Int.cast_pow, Int.cast_pow, Int.cast_ofNat, Int.cast_one]

/-- **1024 times 1024 times a number** is an infinity from there on, and finite below. -/
theorem bytes_cases (m : Nat) (e : Int) :
    let bytes := scaleBy 1024 (scaleBy 1024 (.finite false m e))
    (bytes = .infinite false ∧ (finite false m e).lessThan boundlessFrom = false) ∨
      ((∃ m' e', bytes = .finite false m' e') ∧
        (finite false m e).lessThan boundlessFrom = true) := by
  intro bytes
  have hbelow : (finite false m e).lessThan boundlessFrom = true ↔
      (m : ℚ) * 2 ^ e < halfwayBelow 1004 := by rw [lessThan_iff, cast_boundlessFrom]
  have habove : (finite false m e).lessThan boundlessFrom = false ↔
      halfwayBelow 1004 ≤ (m : ℚ) * 2 ^ e := by
    rw [← not_lt, ← hbelow, Bool.not_eq_true]
  rcases scaleBy_1024_cases false m e with ⟨honce, hlimit⟩ | ⟨m', e', honce, -, hside⟩
  · refine .inl ⟨?_, habove.2 (le_trans ?_ hlimit)⟩
    · change scaleBy 1024 _ = _
      rw [honce]
      rfl
    · exact halfwayBelow_mono (by decide)
  · have htwice : bytes = scaleBy 1024 (.finite false m' e') := congrArg (scaleBy 1024) honce
    have hlimit : halfwayBelow 1014 ≤ (m' : ℚ) * 2 ^ e' ↔ halfwayBelow 1004 ≤ (m : ℚ) * 2 ^ e :=
      hside 1014 (by decide)
    rw [htwice, habove, hbelow, ← not_le, ← hlimit]
    rcases scaleBy_1024_cases false m' e' with ⟨h, hlimit⟩ | ⟨m'', e'', h, hlimit, -⟩
    · exact .inl ⟨h, hlimit⟩
    · exact .inr ⟨⟨m'', e'', h⟩, not_le.2 hlimit⟩

end Binary64

namespace Settings

/-- Settings that can be had: given entry by entry, or loaded. -/
inductive Accepted (s : Settings) : Prop
  | given {entries : List (String × Value)} (h : ofEntries entries = .ok s)
  | loaded {files : FileStore} {env : Environment} {file : Option Path}
      {overrides : List (String × Value)} (h : load files env file overrides = .ok s)

/-- Settings that are made of entries pass their own check. -/
theorem check_of_ofEntries {entries : List (String × Value)} {s : Settings}
    (h : ofEntries entries = .ok s) : s.check = .ok s := by
  rw [ofEntries] at h
  split_ifs at h
  obtain hok | ⟨message, hbad⟩ | ⟨htype, -⟩ := check_cases (givenBy entries)
  · obtain rfl : givenBy entries = s := Except.ok.inj (hok.symm.trans h)
    exact hok
  · cases hbad.symm.trans h
  · cases htype.symm.trans h

/-- Settings that are made of merged entries pass their own check. -/
theorem check_of_ofMerged {room : Nat} {merged : Listing String Value} {s : Settings}
    (h : ofMerged room merged = .ok s) : s.check = .ok s := by
  rw [ofMerged] at h
  split at h
  · rename_i k _
    cases hshown : ((merged.get? k).getD .null).shown room with
    | ok value => rw [hshown] at h; cases h
    | error fault => rw [hshown] at h; cases h
  · split at h
    · cases h
    · exact check_of_ofEntries h

/-- Whatever is accepted has passed the check. -/
theorem Accepted.check {s : Settings} (h : s.Accepted) : s.check = .ok s := by
  cases h with
  | given h => exact check_of_ofEntries h
  | @loaded files env file overrides h =>
    rw [load] at h
    cases hlayers : layers files env file overrides with
    | error fault => rw [hlayers] at h; cases h
    | ok found => rw [hlayers] at h; exact check_of_ofMerged h

/-- A verdict is valid if the check was made and nothing was broken. -/
theorem verdict_eq_valid_iff {broken : Option Bool} {message : String} :
    verdict broken message = .valid ↔ broken = some false := by
  rcases broken with _ | _ | _ <;> simp [verdict]

/-- What the rule about the greatest size lets pass. -/
theorem maxFileSize_of_check {s : Settings} (h : s.check = .ok s) :
    (s.get .maxFileSize).lessThan? 0 = some false ∧ (s.get .maxFileSize).equalsInt 0 = false := by
  have hvalid : ∀ v ∈ s.verdicts, v = .valid := by
    rw [check] at h
    cases hfind : s.verdicts.find? fun v => v ≠ .valid with
    | none => simpa using hfind
    | some v =>
      have hnot := List.find?_some hfind
      rw [hfind] at h
      cases v with
      | valid => simp at hnot
      | broken message => cases h
      | inapplicable => cases h
  have hrule := hvalid _ (by rw [verdicts]; exact .tail _ (.tail _ (.head _)))
  rw [verdict_eq_valid_iff, Option.map_eq_some_iff] at hrule
  obtain ⟨below, hbelow, hneither⟩ := hrule
  obtain ⟨rfl, hzero⟩ := Bool.or_eq_false_iff.1 hneither
  exact ⟨hbelow, hzero⟩

/-- The fault of asking a number that has none for its integer part. -/
def wholeFault : Binary64 → Fault
  | .nan => .badValue "cannot convert float NaN to integer"
  | _ => .overflow

/-- **The bytes of a greatest size** that passes the check. -/
theorem maxFileBytes_cases {s : Settings} (h : s.check = .ok s) :
    ((∀ x, s.get .maxFileSize = .real x → x.lessThan Binary64.boundlessFrom = true) ∧
      ∃ limit, s.maxFileBytes = .ok limit ∧ 0 ≤ limit) ∨
    ∃ x, s.get .maxFileSize = .real x ∧ x.lessThan Binary64.boundlessFrom = false ∧
      s.maxFileBytes = .error (wholeFault x) := by
  obtain ⟨hneg, hzero⟩ := maxFileSize_of_check h
  cases hsize : s.get .maxFileSize with
  | null | text | moment | list | table => rw [hsize] at hneg; cases hneg
  | bool b =>
    refine .inl ⟨fun x hx => (by cases hx), _, by rw [maxFileBytes, hsize], ?_⟩
    cases b <;> decide
  | int n =>
    rw [hsize] at hneg
    have hn : 0 ≤ n := by simpa [Value.lessThan?] using hneg
    refine .inl ⟨fun x hx => (by cases hx), _, by rw [maxFileBytes, hsize], ?_⟩
    exact Int.mul_nonneg (Int.mul_nonneg hn (by decide)) (by decide)
  | real x =>
    rw [hsize] at hneg hzero
    rcases Binary64.cases_of_positive (Option.some.inj hneg) hzero with rfl | rfl | ⟨m, e, rfl⟩
    · exact .inr ⟨_, rfl, rfl, by rw [maxFileBytes, hsize]; rfl⟩
    · exact .inr ⟨_, rfl, rfl, by rw [maxFileBytes, hsize]; rfl⟩
    · rcases Binary64.bytes_cases m e with ⟨hbytes, habove⟩ | ⟨⟨m', e', hbytes⟩, hbelow⟩
      · refine .inr ⟨_, rfl, habove, ?_⟩
        rw [maxFileBytes, hsize]
        dsimp only [kilo]
        rw [hbytes]
        rfl
      · refine .inl ⟨fun x hx => Value.real.inj hx ▸ hbelow,
          ((Binary64.magnitude m' e').1 / (Binary64.magnitude m' e').2 : Nat), ?_, ?_⟩
        · rw [maxFileBytes, hsize]
          dsimp only [kilo]
          rw [hbytes]
          rfl
        · exact Int.natCast_nonneg _

end Settings

namespace Scanner

/-- The text of a file of any size. -/
def decodedFile (settings : Settings) (files : FileStore) (path : Path) :
    Except Fault (List Char) := do
  let entry ← (files.stat path.toText).mapError (accessFault path)
  let name ← encodingName settings
  entry.opened.mapError (accessFault path)
  let decode ← files.host.decoder name
  let bytes ← entry.bytes.mapError (accessFault path)
  decode bytes.toList

/-- **A greatest size that does no more than it says**: of what is there, larger files are failed
accesses, which tell both sizes, and all others are read as if there were no greatest size. -/
structure ReadsUpTo (settings : Settings) (limit : Int) : Prop where
  absent : ∀ {files : FileStore} {path : Path} {fault : AccessFault},
    files.stat path.toText = .error fault →
      readText settings files path = .error (accessFault path fault)
  tooLarge : ∀ {files : FileStore} {path : Path} {entry : FileEntry},
    files.stat path.toText = .ok entry → limit < entry.size →
      readText settings files path = .error (.failure (.fileAccess path.toText
        s!"file too large ({entry.size} bytes > {limit})"))
  within : ∀ {files : FileStore} {path : Path} {entry : FileEntry},
    files.stat path.toText = .ok entry → entry.size ≤ limit →
      readText settings files path = decodedFile settings files path

variable {settings : Settings}

/-- Files up to the limit in bytes are read, and larger ones are refused. -/
theorem readsUpTo_of_bytes {limit : Int} (h : settings.maxFileBytes = .ok limit) :
    ReadsUpTo settings limit where
  absent hstat := by
    rw [readText, hstat]
    rfl
  tooLarge hstat hlarge := by
    rw [readText_of_stat hstat, textOf, h]
    simp only [bind, Except.bind, if_pos hlarge]
    rfl
  within hstat hsize := by
    rw [readText_of_stat hstat, textOf, decodedFile, hstat, h]
    simp only [Except.mapError, bind, Except.bind, if_neg (Int.not_lt.2 hsize)]

/-- Without a number of bytes no file is read, of whatever size. -/
theorem readText_of_fault {fault : Fault} (h : settings.maxFileBytes = .error fault)
    {files : FileStore} {path : Path} {entry : FileEntry}
    (hstat : files.stat path.toText = .ok entry) :
    readText settings files path = .error fault := by
  rw [readText_of_stat hstat, textOf, h]
  rfl

/-- **Which accepted sizes can be used.**  However settings were accepted, given or loaded: their
greatest size is a number of bytes, not negative, and reading stops by it for larger files alone,
by a failed access, if and only if it is no real number that compares below no bound: not a number,
an infinity, or a number from halfway below `2^1004` on.  With such a number every file that is
there ends reading by the fault of converting it, which is no failed access. -/
theorem accepted_size_usable_iff {settings : Settings} (h : settings.Accepted) :
    ((∃ limit, settings.maxFileBytes = .ok limit ∧ 0 ≤ limit ∧ ReadsUpTo settings limit) ↔
      ∀ x, settings.get .maxFileSize = .real x → x.lessThan Binary64.boundlessFrom = true) ∧
    ∀ x, settings.get .maxFileSize = .real x → x.lessThan Binary64.boundlessFrom = false →
      settings.maxFileBytes = .error (Settings.wholeFault x) ∧
      ∀ (files : FileStore) (path : Path) (entry : FileEntry),
        files.stat path.toText = .ok entry →
          readText settings files path = .error (Settings.wholeFault x) := by
  rcases Settings.maxFileBytes_cases h.check with
    ⟨hbelow, limit, hbytes, hnonneg⟩ | ⟨x, hx, habove, hbytes⟩
  · refine ⟨iff_of_true ⟨limit, hbytes, hnonneg, readsUpTo_of_bytes hbytes⟩ hbelow, ?_⟩
    intro x hx habove
    rw [hbelow x hx] at habove
    cases habove
  · refine ⟨iff_of_false ?_ ?_, ?_⟩
    · rintro ⟨limit, hok, -⟩
      rw [hbytes] at hok
      cases hok
    · intro hbelow
      rw [hbelow x hx] at habove
      cases habove
    · intro y hy _
      obtain rfl := Value.real.inj (hx.symm.trans hy)
      exact ⟨hbytes, fun files path entry hstat => readText_of_fault hbytes hstat⟩

end Scanner

namespace Settings

/-- The settings that give the greatest size. -/
def sized (size : Value) : Settings := givenBy [(Field.maxFileSize.key, size)]

theorem get_sized (size : Value) (f : Field) :
    (sized size).get f = if f = .maxFileSize then size else f.default := by
  have hfind : (sized size).get f =
      if Field.maxFileSize.key = f.key then size else f.default := by
    by_cases hkey : Field.maxFileSize.key = f.key <;> simp [sized, givenBy, hkey]
  rw [hfind]
  simp only [Field.key_injective.eq_iff, eq_comm]

/-- Every size that compares neither below nor equal to 0 is accepted. -/
theorem accepted_sized {size : Value} (hneg : size.lessThan? 0 = some false)
    (hzero : size.equalsInt 0 = false) : (sized size).Accepted := by
  have hcheck : (sized size).check = .ok (sized size) := by
    have hvalid : (sized size).verdicts = [.valid, .valid, .valid, .valid, .valid] := by
      have hbackend : isBackend (.text "auto") = true := by decide
      have hmarker : "NOSONAR".isEmpty = false := by decide
      have hproject : "Objective-C Project".isEmpty = false := by decide
      simp [verdicts, get_sized, Field.default, Value.isSet, verdict, hneg, hzero, hbackend,
        hmarker, hproject]
    rw [check, hvalid]
    rfl
  have hentries : ofEntries [(Field.maxFileSize.key, size)] = (sized size).check := by
    rw [ofEntries, if_pos (by simp [Field.ofKey?_key])]
    rfl
  exact .given (hentries.trans hcheck)

end Settings

namespace Scanner

open Settings (sized accepted_sized)

/-- Half a megabyte can be used, and an infinity of them cannot. -/
theorem accepted_size_half_megabyte :
    let half := sized (.real (.finite false 1 (-1)))
    let infinite := sized (.real (.infinite false))
    half.Accepted ∧ infinite.Accepted ∧
    (∃ limit, half.maxFileBytes = .ok limit ∧ 0 ≤ limit ∧ ReadsUpTo half limit) ∧
    infinite.maxFileBytes = .error .overflow := by
  intro half infinite
  have hhalf : half.Accepted := accepted_sized (by decide) (by decide)
  have hinfinite : infinite.Accepted := accepted_sized rfl rfl
  refine ⟨hhalf, hinfinite, (accepted_size_usable_iff hhalf).1.2 ?_, ?_⟩
  · intro x hx
    rw [Settings.get_sized, if_pos rfl] at hx
    rw [← Value.real.inj hx, Binary64.lessThan_iff, Binary64.cast_boundlessFrom, Nat.cast_one]
    exact mul_lt_mul'' (by norm_num) (zpow_lt_zpow_right₀ one_lt_two (by decide)) zero_le_one
      (Binary64.two_zpow_pos _).le
  · exact ((accepted_size_usable_iff hinfinite).2 _ (by rw [Settings.get_sized, if_pos rfl]) rfl).1

/-- What is not a number is accepted as a size, and reading the empty file ends by a fault that is
no failed access. -/
theorem nan_size_stops_reading :
    let settings := sized (.real .nan)
    let files : FileStore :=
      { workingDirectory := [], entries := (Listing.empty).put ["a.m"] (.file ByteArray.empty) }
    let fault := Fault.badValue "cannot convert float NaN to integer"
    settings.Accepted ∧ settings.maxFileBytes = .error fault ∧
      readText settings files (.ofText "/a.m") = .error fault := by
  intro settings files fault
  have hbytes : settings.maxFileBytes = .error fault := by
    rw [Settings.maxFileBytes, Settings.get_sized, if_pos rfl]
    rfl
  have hstat : files.stat (Path.ofText "/a.m").toText = .ok (.file ByteArray.empty) := by cbv
  exact ⟨accepted_sized rfl rfl, hbytes, readText_of_fault hbytes hstat⟩

end Scanner
end LineMetrics
