import LabelPreview.Render.Label

/-!
# Valid options

Options that pass the check say all that drawing asks of them.
-/

namespace LabelPreview

/-- What has been read of options that pass. -/
theorem Options.parts_of_validate {o : Options} (h : o.validate = .ok ()) :
    ∃ width height foreground background, o.labelSize = .ok (width, height) ∧
      o.foregroundColor = .ok foreground ∧ o.backgroundColor = .ok background := by
  unfold validate at h
  split at h
  · cases h
  · split at h
    · cases h
    · split at h
      · cases h
      · split at h
        · cases h
        · cases h
        · cases h
        · rename_i size foreground background hsize hforeground hbackground
          exact ⟨size.1, size.2, foreground, background, hsize, hforeground, hbackground⟩

theorem Options.validate_default : ({} : Options).validate = .ok () := rfl

namespace Setup

/-- All of the setup is what the options say. -/
structure Reads (s : Setup) (o : Options) : Prop where
  canvas : o.canvasSize = .ok (s.width, s.height)
  font : ∃ limit, o.maxFontSize = .ok limit ∧ s.fontLimit = exact limit
  foreground : o.foregroundColor = .ok s.foreground
  background : o.backgroundColor = .ok s.background
  scale : s.scale = o.baseScale * o.scale
  pitch : s.modulePitch = o.dotsPerModule

variable {o : Options}

theorem ofOptions_of_invalid {cause : OptionsError} (h : o.validate = .error cause) : ofOptions o = .error cause := by
  unfold ofOptions
  rw [h]
  rfl

theorem ofOptions_of_valid (h : o.validate = .ok ()) : ∃ s : Setup, ofOptions o = .ok s ∧ s.Reads o := by
  obtain ⟨width, height, foreground, background, size, hforeground, hbackground⟩ := Options.parts_of_validate h
  have canvas : o.canvasSize = .ok (o.pixels width, o.pixels height) := by
    unfold Options.canvasSize
    rw [size]
    rfl
  obtain ⟨limit, font⟩ : ∃ limit, o.maxFontSize = .ok limit := by
    unfold Options.maxFontSize
    rw [size]
    exact ⟨_, rfl⟩
  unfold ofOptions
  rw [h, canvas, font, hforeground, hbackground]
  exact ⟨_, rfl, canvas, ⟨limit, font, rfl⟩, hforeground, hbackground, rfl, rfl⟩

theorem reads_of_ofOptions {s : Setup} (h : ofOptions o = .ok s) : s.Reads o := by
  cases valid : o.validate with
  | error cause =>
    rw [ofOptions_of_invalid valid] at h
    cases h
  | ok u =>
    obtain ⟨t, made, reads⟩ := ofOptions_of_valid valid
    rw [h] at made
    cases made
    exact reads

end Setup

end LabelPreview
