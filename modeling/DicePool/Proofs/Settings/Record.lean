import DicePool.Proofs.Form.Checking
import DicePool.Settings.Basic

/-!
# Proofs/Settings/Record — settings and the records that the form accepts

Whatever the form accepts is the record of the settings that are read from it (`toValues_ofValues`), so
that a checked record and its settings stand for each other. The form accepts its own defaults
(`acceptsFallback_of_mem`).
-/

namespace DicePool

namespace Settings

/-- **Every field accepts its default.** -/
theorem acceptsFallback_of_mem {f : FormField} (h : f ∈ form) : f.AcceptsFallback := by
  have hall : ∀ f ∈ form, f.AcceptsFallback := by
    simp [form, FormField.AcceptsFallback, Shape.check, checkText, checkWhole, checkTruth, wholeOfValue,
      bind, Except.bind, pure, Except.pure]
  exact hall f h

/-- **Every field has a default.** -/
theorem exists_fallback {f : FormField} (h : f ∈ form) : ∃ d, f.fallback = some d := by
  have hall : ∀ f ∈ form, f.fallback.isSome := by decide
  exact Option.isSome_iff_exists.1 (hall f h)

theorem nodup_fieldNames : fieldNames.Nodup := by decide

/-- A record that fits is that of some settings. -/
theorem exists_toValues_of_fits {values : Named Json} (h : Form.Fits form values) :
    ∃ s : Settings, values = s.toValues := by
  obtain ⟨env, _, _, h⟩ := h.text
  obtain ⟨appId, _, _, h⟩ := h.textOrNull
  obtain ⟨publicKey, _, _, h⟩ := h.text
  obtain ⟨devPublicKey, _, _, h⟩ := h.textOrNull
  obtain ⟨botToken, _, _, h⟩ := h.textOrNull
  obtain ⟨webhookOverride, _, _, h⟩ := h.textOrNull
  obtain ⟨responseTimeout, _, _, h⟩ := h.whole
  obtain ⟨appPort, _, _, h⟩ := h.whole
  obtain ⟨diceSeed, _, _, h⟩ := h.wholeOrNull
  obtain ⟨maxPool, _, _, h⟩ := h.whole
  obtain ⟨maxExplosions, _, _, h⟩ := h.whole
  obtain ⟨loggingEnabled, _, _, h⟩ := h.truth
  obtain ⟨loggingLevel, _, _, h⟩ := h.text
  obtain ⟨loggingConsole, _, _, h⟩ := h.text
  obtain ⟨loggingFile, _, _, h⟩ := h.text
  obtain ⟨loggingPath, _, _, h⟩ := h.text
  obtain ⟨loggingMaxBytes, _, _, h⟩ := h.whole
  obtain ⟨loggingBackups, _, _, h⟩ := h.whole
  obtain ⟨metricsEnabled, _, _, h⟩ := h.truth
  have hnil := h.nil
  subst_vars
  exact ⟨⟨env, appId, publicKey, devPublicKey, botToken, webhookOverride, responseTimeout, appPort,
    diceSeed, maxPool, maxExplosions, loggingEnabled, loggingLevel, loggingConsole, loggingFile,
    loggingPath, loggingMaxBytes, loggingBackups, metricsEnabled⟩, rfl⟩

/-- **Whatever the form accepts is the record of the settings read from it.** -/
theorem toValues_ofValues {given values : Named Json} (h : form.check given = .ok values) :
    (ofValues values).toValues = values := by
  obtain ⟨s, rfl⟩ := exists_toValues_of_fits
    (Form.fits_of_check (fun _ => acceptsFallback_of_mem) h)
  rw [ofValues_toValues]

end Settings

end DicePool
