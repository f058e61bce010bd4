import ScanSetup.Options.Effect

set_option autoImplicit false

namespace ScanSetup

section

variable {ε α β : Type}

theorem map_eq_ok_iff {f : α → β} {x : Except ε α} {b : β} :
    x.map f = .ok b ↔ ∃ a, x = .ok a ∧ f a = b := by
  cases x <;> simp [Except.map]

theorem map_eq_error_iff {f : α → β} {x : Except ε α} {e : ε} :
    x.map f = .error e ↔ x = .error e := by
  cases x <;> simp [Except.map]

theorem mapError_eq_ok_iff {f : ε → β} {x : Except ε α} {a : α} :
    x.mapError f = .ok a ↔ x = .ok a := by
  cases x with
  | error e => exact iff_of_false nofun nofun
  | ok b =>
    change Except.ok b = Except.ok a ↔ _
    simp

theorem mapError_eq_error_iff {f : ε → β} {x : Except ε α} {b : β} :
    x.mapError f = .error b ↔ ∃ e, x = .error e ∧ f e = b := by
  cases x with
  | error e =>
    change Except.error (f e) = Except.error b ↔ _
    simp
  | ok a => exact iff_of_false nofun nofun

theorem eq_ok_of_isOk {x : Except ε α} (success : x.isOk = true) : ∃ a, x = .ok a := by
  cases x with
  | error e => cases success
  | ok a => exact ⟨a, rfl⟩

/-- A test that the value of an outcome passes shows that there is one. -/
theorem eq_ok_of_any {x : Except ε α} {p : α → Bool} (passed : x.toOption.any p = true) :
    ∃ a, x = .ok a ∧ p a = true := by
  cases x with
  | error e => cases passed
  | ok a => exact ⟨a, rfl, passed⟩

end

theorem Options.clampValue_eq_ok {value : String} {clamp : Clamp} :
    clampValue value = .ok clamp ↔ Clamp.parse value = .ok clamp :=
  mapError_eq_ok_iff

namespace Draft

variable {d next : Draft} {env : Environment}

/-- A selection changes nothing but categories, the two switches that merging directories needs,
and the notices. -/
theorem applySelection_eq (d : Draft) (selection : Lint.Selection) :
    ∃ switches, d.applySelection selection =
      { d with
        settings :=
          { d.settings with lint := selection.apply d.settings.lint, switches := switches }
        notices := d.notices ++ selection.notices } := by
  unfold applySelection
  dsimp only
  split
  · exact ⟨_, rfl⟩
  · exact ⟨_, rfl⟩

theorem stepParanoia_eq_ok {delta : Int} (success : d.stepParanoia delta = .ok next) :
    ∃ effect, paranoiaEffect? (d.settings.paranoia + delta) = some effect ∧
      next = d.update fun s =>
        { s with
          paranoia := s.paranoia + delta
          checksum :=
            match effect with
            | .keep => s.checksum
            | .choose algorithm => algorithm } := by
  unfold stepParanoia at success
  dsimp only at success
  split at success
  · cases success
  · rename_i found
    exact ⟨.keep, found, (Except.ok.inj success).symm⟩
  · rename_i algorithm found
    exact ⟨.choose algorithm, found, (Except.ok.inj success).symm⟩

/-- A filter holds the positive instant that was read; a notice may say that it lies in the
future. -/
theorem filterNewer_eq_ok {option spec : String} (success : d.filterNewer option spec = .ok next) :
    ∃ stamp notices, Time.parseStamp d.referenceTime spec = .ok stamp ∧
      next = { d.update ({ · with timeFilter := ⟨true, stamp.instant⟩ }) with
        notices := d.notices ++ notices } := by
  unfold filterNewer at success
  split at success
  · cases success
  · cases success
  · rename_i stamp read
    dsimp only at success
    split at success
    · split at success
      · cases success
      · exact ⟨stamp, _, read, (Except.ok.inj success).symm⟩
    · refine ⟨stamp, [], read, ?_⟩
      rw [← Except.ok.inj success, List.append_nil]
      rfl

/-- A stamp file that cannot be read leaves no filter. The stamp of one that can be read is
filtered on, and the file becomes a sink in its notation. -/
theorem filterNewerThanFile_eq_ok {path : String}
    (success : d.filterNewerThanFile env path = .ok next) :
    (∃ fault, Time.readStampFile env path = .error fault ∧ fault ≠ .embeddedNul ∧
      next = (d.update ({ · with timeFilter := .off })).noting fault.message) ∨
    ∃ spec filtered, Time.readStampFile env path = .ok spec ∧
      (d.update ({ · with timeFilter := .off })).filterNewer "--newer-than-stamp" spec =
        .ok filtered ∧
      next =
        if Time.isPlain spec then filtered.register ⟨stampFormatter, path⟩
        else (filtered.register ⟨stampFormatter, path⟩).addOverride civilStamp := by
  unfold filterNewerThanFile at success
  dsimp only at success
  split at success
  · cases success
  · rename_i fault other read
    exact Or.inl ⟨fault, read, other, (Except.ok.inj success).symm⟩
  · rename_i spec read
    split at success
    · cases success
    · rename_i filtered filter
      exact Or.inr ⟨spec, filtered, read, filter, (Except.ok.inj success).symm⟩

theorem addCache_eq_ok {path : String} (success : d.addCache env path = .ok next) :
    env.isFile (tidyPath path) = .ok true ∧
      next = d.update fun s => { s with caches := s.caches ++ [path] } := by
  unfold addCache at success
  split at success
  · cases success
  · rename_i present
    exact ⟨present, (Except.ok.inj success).symm⟩
  · cases success

end Draft

end ScanSetup
