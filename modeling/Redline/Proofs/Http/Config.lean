import Mathlib.Control.Monad.Basic
import Redline.Http.Exchange
import Redline.Proofs.Http.Endpoint

/-!
# Accepted configurations

A configuration is cleaned up when it is read, and the backend that is built from it cleans up its
models and its endpoint once more. What is read is in a normal form already, so the second time
changes nothing: the backend offers the models of the configuration, and it is reached where the
endpoint says as it was written.
-/

namespace Redline.Http

open Redline.Json Redline.Text

variable {config : HttpConfig} {file : ConfigFile} {models : List String} {raw : String}

/-! ## Cleaning up again -/

theorem cleanModels_of_tidy (hmodels : ∀ model ∈ models, Tidy model) (hne : models ≠ [])
    (fallback : String) : cleanModels fallback models = models := by
  rw [cleanModels, filterMap_trimmed?_of_tidy hmodels]
  cases models with
  | nil => exact absurd rfl hne
  | cons model more => rfl

/-! ## Files -/

/-- The values of a file are such that a backend can be built from them. -/
structure ConfigFile.Acceptable (file : ConfigFile) : Prop where
  endpoint : isBlankText file.endpoint = false
  models : ∃ model ∈ file.models, isBlankText model = false
  timeout : file.timeout ≠ some 0

namespace HttpConfig

/-- What a configuration has of the file from which it was read. -/
structure TakenFrom (config : HttpConfig) (file : ConfigFile) : Prop where
  endpoint : config.endpoint = trim file.endpoint
  models : config.models = (file.models.map trim).filter (· ≠ "")
  apiKey : config.apiKey = file.apiKey.bind trimmed?
  timeout : config.timeout = file.timeout.map .ofSecs
  retryDelay : config.retryDelay = defaultRetryDelay

theorem exists_model_iff : (models.filterMap trimmed?).isEmpty = false ↔
    ∃ model ∈ models, isBlankText model = false := by
  rw [List.isEmpty_eq_false_iff, ne_eq, List.filterMap_eq_nil_iff]
  simp [trimmed?]

/-- **A file is accepted exactly if its values are acceptable**, and then the configuration is the
one that is taken from it. -/
theorem ofFile_eq_ok_iff : ofFile file = .ok config ↔ file.Acceptable ∧ config.TakenFrom file := by
  rw [ofFile]
  constructor
  · intro h
    split at h
    case h_1 => cases h
    case h_2 endpoint hendpoint =>
      obtain ⟨hnotBlank, hcut⟩ := trimmed?_eq_some_iff.mp hendpoint
      by_cases hempty : (file.models.filterMap trimmed?).isEmpty = true
      · rw [if_pos hempty] at h
        cases h
      rw [if_neg hempty] at h
      by_cases hzero : file.timeout = some 0
      · rw [if_pos hzero] at h
        cases h
      rw [if_neg hzero] at h
      obtain rfl := Except.ok.inj h
      have hmodel := exists_model_iff.mp (Bool.eq_false_iff.mpr hempty)
      exact ⟨⟨hnotBlank, hmodel, hzero⟩, ⟨hcut.symm, filterMap_trimmed? _, rfl, rfl, rfl⟩⟩
  · rintro ⟨hacceptable, htaken⟩
    have hendpoint := trimmed?_eq_some_iff.mpr ⟨hacceptable.endpoint, rfl⟩
    have hempty := exists_model_iff.mpr hacceptable.models
    obtain ⟨endpoint, models, apiKey, timeout, retryDelay⟩ := config
    obtain ⟨rfl, rfl, rfl, rfl, rfl⟩ := htaken
    rw [← filterMap_trimmed?]
    simp only [hendpoint, hempty, Bool.false_eq_true, if_false, if_neg hacceptable.timeout]

/-! ## Texts -/

/-- No text in a configuration is blank or has white space around it, one model at least is listed,
and a time limit leaves time. -/
structure Normal (config : HttpConfig) : Prop where
  endpoint : Tidy config.endpoint
  models : ∀ model ∈ config.models, Tidy model
  models_ne_nil : config.models ≠ []
  apiKey : ∀ key, config.apiKey = some key → Tidy key
  timeout : ∀ limit, config.timeout = some limit → 0 < limit.totalNanos

/-- The backend with a configuration takes the models over as they are, and the first is the one
that it uses unless told otherwise. -/
structure OffersItsModels (config : HttpConfig) : Prop where
  clean : ∀ fallback, cleanModels fallback config.models = config.models
  models : ∀ {τ : Type} (T : Transport τ) (s : τ),
    ((config.backend T).profile s).models = config.models
  default : ∀ {τ : Type} (T : Transport τ) (s : τ),
    config.models.head? = some ((config.backend T).profile s).defaultModel

theorem offersItsModels (hmodels : ∀ model ∈ config.models, Tidy model) (hne : config.models ≠ []) :
    config.OffersItsModels where
  clean := cleanModels_of_tidy hmodels hne
  models T s := cleanModels_of_tidy hmodels hne "default"
  default T s := by
    have hclean := cleanModels_of_tidy hmodels hne "default"
    obtain ⟨first, more, hfirst⟩ := List.exists_cons_of_ne_nil hne
    change _ = some ((cleanModels "default" config.models).headD "default")
    rw [hclean, hfirst]
    rfl

theorem normal_of_acceptable (hacceptable : file.Acceptable) (htaken : config.TakenFrom file) :
    config.Normal where
  endpoint := by
    rw [htaken.endpoint]
    exact tidy_trim hacceptable.endpoint
  models model hmodel := by
    rw [htaken.models, ← filterMap_trimmed?] at hmodel
    exact tidy_of_mem_filterMap hmodel
  models_ne_nil := by
    rw [htaken.models, ← filterMap_trimmed?, ← List.isEmpty_eq_false_iff]
    exact exists_model_iff.mpr hacceptable.models
  apiKey key hkey := by
    rw [htaken.apiKey] at hkey
    obtain ⟨written, -, hcut⟩ := Option.bind_eq_some_iff.mp hkey
    exact tidy_of_trimmed? hcut
  timeout limit hlimit := by
    rw [htaken.timeout] at hlimit
    obtain ⟨secs, hsecs, rfl⟩ := Option.map_eq_some_iff.mp hlimit
    have hpos : 0 < secs := Nat.pos_of_ne_zero fun hzero ↦ hacceptable.timeout (hzero ▸ hsecs)
    change 0 < secs * 1000000000 + 0
    omega

theorem ofText_eq_ok_iff : ofText raw = .ok config ↔
    ∃ file, readWhole (readRecord ConfigFile.format) raw = .ok file ∧ ofFile file = .ok config := by
  rw [ofText]
  cases readWhole (readRecord ConfigFile.format) raw with
  | error e => simp
  | ok file => simp

/-- **A configuration that is accepted is normal, and the backend agrees with it.** Its endpoint,
its models and its key are those of the file without the white space around them and without the
blank ones, and no time limit is zero. The backend takes the models over as they are, and its
address is the one that the endpoint of the file gives as it was written. -/
theorem normal_of_ofText (h : ofText raw = .ok config) :
    config.Normal ∧ config.OffersItsModels ∧
      ∃ file, readWhole (readRecord ConfigFile.format) raw = .ok file ∧ config.TakenFrom file ∧
        config.address = normalizeEndpoint file.endpoint := by
  obtain ⟨file, hread, hfile⟩ := ofText_eq_ok_iff.mp h
  obtain ⟨hacceptable, htaken⟩ := ofFile_eq_ok_iff.mp hfile
  have hnormal := normal_of_acceptable hacceptable htaken
  refine ⟨hnormal, offersItsModels hnormal.models hnormal.models_ne_nil, file, hread, htaken, ?_⟩
  rw [address, htaken.endpoint, normalizeEndpoint_trim]

/-- Blank models and the white space around texts are gone after the first clean-up. -/
theorem normal_of_ofText_padded :
    let raw := "\x7b\"endpoint\": \" http://x/api/ \", " ++
      "\"models\": [\" \", \"big\\n\", \"small\"], \"timeout_sec\": 30, \"api_key\": \" k \"\x7d"
    let config : HttpConfig :=
      ⟨"http://x/api/", ["big", "small"], some "k", some ⟨30, 0⟩, defaultRetryDelay⟩
    ofText raw = .ok config ∧ config.Normal ∧ config.OffersItsModels ∧
      config.address = "http://x/api/propose" := by
  intro raw config
  have hread : ofText raw = .ok config := by decide +kernel
  have hnormal := normal_of_ofText hread
  exact ⟨hread, hnormal.1, hnormal.2.1, by decide +kernel⟩

end HttpConfig

end Redline.Http
