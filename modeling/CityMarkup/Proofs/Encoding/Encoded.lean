import CityMarkup.Proofs.Encoding.Runs
import CityMarkup.Writer

/-!
# Encoded models

Encoding a model succeeds exactly if the options are accepted.  The writer
then holds the whole document of the model, with nothing but its document
element open, and nothing of what it held before.
-/

namespace CityMarkup

theorem Options.validate_standard : standard.validate = .ok () := by
  rw [validate, if_pos (by decide)]

namespace CityModel

/-- The document element of the encoded model. -/
def encodedRoot (o : Options) (m : CityModel) : OpenElement :=
  m.documentElement (m.settings o) o

/-- The builder that holds the encoded model. -/
def encodedBuilder (o : Options) (m : CityModel) : Builder :=
  ⟨m.settings o, [m.encodedRoot o], none⟩

end CityModel

namespace Writer

theorem run_encode_ok {w : Writer} (h : w.options.validate = .ok ())
    (m : CityModel) :
    (encode m).run w =
      ⟨.ok (), ⟨w.options, m.encodedBuilder w.options, true, none⟩,
        m.namespaceNotice :: m.notices w.options⟩ := by
  rw [Action.run, encode]
  simp only [h, m.run_build, afterBuilder, record]
  rfl

theorem run_encode_error {w : Writer} {failure : Failure}
    (h : w.options.validate = .error failure) (m : CityModel) :
    (encode m).run w =
      ⟨.error failure, ⟨w.options, w.builder, false, some failure⟩,
        [.writingFailed failure]⟩ := by
  rw [Action.run, encode]
  simp only [h, record]
  rfl

/-- Encoding fails only with the failure of validating the options. -/
theorem result_encode (w : Writer) (m : CityModel) :
    ((encode m).run w).result = w.options.validate := by
  cases h : w.options.validate with
  | ok done => rw [run_encode_ok h]
  | error failure => rw [run_encode_error h]

/-- A writer that has encoded a model holds the document of the model. -/
theorem state_encode {w : Writer} {m : CityModel}
    (h : ((encode m).run w).result = .ok ()) :
    ((encode m).run w).state =
      ⟨w.options, m.encodedBuilder w.options, true, none⟩ := by
  rw [result_encode] at h
  rw [run_encode_ok h]

end Writer

end CityMarkup
