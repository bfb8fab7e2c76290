import CityMarkup.Proofs.Storage.Atomicity
import CityMarkup.Proofs.Writer.Handover

/-!
# Replaced files

A document that is saved at a path replaces the file there as a whole, or the
files stay as they are.  It makes no difference who saves it: a builder, a
writer in any state, or a model with a writer of its own.
-/

namespace CityMarkup

namespace Files

/-- Whether saving what has been rendered at a path is all or nothing.  If it
works, the bytes that were rendered have replaced the file at the target.  If
it fails, because there was nothing to save or because the files do not accept
it, the files are what they were. -/
structure SavesWhole (files : Files) (path : String) (accepts : Nat → Prop)
    (rendering : Except Failure String)
    (answer : Except Failure Unit × Files) : Prop where
  unrendered : ∀ failure, rendering = .error failure →
    answer = (.error failure, files)
  failed : ∀ failure, answer.1 = .error failure → answer.2 = files
  worked : answer.1 = .ok () → ∃ text, rendering = .ok text ∧
    files.Replaced path (Utf8.encode text.toList) answer.2
  works : answer.1 = .ok () ↔ ∃ text, rendering = .ok text ∧
    accepts (Utf8.encode text.toList).length

variable {files : Files} {path : String}

theorem savesWhole_error (accepts : Nat → Prop) (failure : Failure) :
    files.SavesWhole path accepts (.error failure) (.error failure, files) where
  unrendered := by
    rintro _ ⟨⟩
    rfl
  failed := fun _ _ => rfl
  worked := by rintro ⟨⟩
  works := iff_of_false (by rintro ⟨⟩) (by rintro ⟨_, ⟨⟩, -⟩)

/-- A way to store bytes that is all or nothing saves documents whole. -/
theorem savesWhole_handOver
    {store : List UInt8 → Files → Except IoFault Unit × Files}
    {accepts : Nat → Prop}
    (hstore : ∀ bytes, files.AllOrNothing path bytes (accepts bytes.length)
      (store bytes files)) (rendering : Except Failure String) :
    files.SavesWhole path accepts rendering
      (Writer.handOver rendering store files) := by
  cases rendering with
  | error failure => exact savesWhole_error accepts failure
  | ok text =>
      have hwhole := hstore (Utf8.encode text.toList)
      rw [Writer.handOver]
      generalize store (Utf8.encode text.toList) files = stored at *
      cases hwhole with
      | all hallowed htarget =>
          exact
            { unrendered := by rintro _ ⟨⟩
              failed := by rintro _ ⟨⟩
              worked := fun _ => ⟨text, rfl, replaced_put htarget _⟩
              works := iff_of_true rfl ⟨text, rfl, hallowed⟩ }
      | nothing hrefused fault =>
          refine
            { unrendered := by rintro _ ⟨⟩
              failed := fun _ _ => rfl
              worked := by rintro ⟨⟩
              works := iff_of_false (by rintro ⟨⟩) ?_ }
          rintro ⟨_, ⟨⟩, hallowed⟩
          exact hrefused hallowed

theorem savesWhole_saveUnder (c : Circumstances) (path : String)
    (files : Files) (rendering : Except Failure String) :
    files.SavesWhole path (c.Allow files path) rendering
      (Writer.handOver rendering (saveUnder c path) files) :=
  savesWhole_handOver (fun bytes => allOrNothing_saveUnder c path bytes files)
    rendering

theorem savesWhole_save (path : String) (files : Files)
    (rendering : Except Failure String) :
    files.SavesWhole path (files.Accepts path) rendering
      (Writer.handOver rendering (save path) files) := by
  apply savesWhole_handOver
  intro bytes
  rw [← saveUnder_calm, ← allow_calm]
  exact allOrNothing_saveUnder _ path bytes files

end Files

namespace Writer

/-- Saving at a path is all or nothing in every state of a builder and of a
writer and for every model, whatever stands at the path and whatever becomes of
the temporary file. -/
theorem saveToFile_savesWhole (path : String) (files : Files) :
    (∀ b : Builder, files.SavesWhole path (files.Accepts path)
        (Builder.render.run b).result
        (Builder.answered (b.save (Files.save path) files))) ∧
      (∀ w : Writer, files.SavesWhole path (files.Accepts path)
        (render.run w).result (answered (w.saveToFile path files))) ∧
      (∀ (o : Options) (m : CityModel),
        files.SavesWhole path (files.Accepts path) (m.output o)
          (answered (m.saveToFile o path files))) ∧
      (∀ m : CityModel, files.SavesWhole path (files.Accepts path)
        (m.output .standard) (answered (m.toFile path files))) ∧
      ∀ c : Files.Circumstances,
        (∀ b : Builder, files.SavesWhole path (c.Allow files path)
          (Builder.render.run b).result
          (Builder.answered (b.save (Files.saveUnder c path) files))) ∧
        (∀ w : Writer, files.SavesWhole path (c.Allow files path)
          (render.run w).result
          (answered
            (w.save (.savedToFile path) (Files.saveUnder c path) files))) ∧
        ∀ (o : Options) (m : CityModel),
          files.SavesWhole path (c.Allow files path) (m.output o)
            (answered (m.saveWith o
              (save (.savedToFile path) (Files.saveUnder c path) files)
              files)) := by
  have hmodel : ∀ (o : Options) (m : CityModel),
      files.SavesWhole path (files.Accepts path) (m.output o)
        (answered (m.saveToFile o path files)) := by
    intro o m
    have hanswer := answered_saveWith_save (.savedToFile path)
      (Files.save path) files o m
    rw [CityModel.saveToFile]
    exact hanswer ▸ Files.savesWhole_save path files _
  refine ⟨?_, ?_, hmodel, hmodel .standard, ?_⟩
  · intro b
    rw [Builder.answered_save]
    exact Files.savesWhole_save path files _
  · intro w
    rw [saveToFile, answered_save]
    exact Files.savesWhole_save path files _
  · intro c
    refine ⟨?_, ?_, ?_⟩
    · intro b
      rw [Builder.answered_save]
      exact Files.savesWhole_saveUnder c path files _
    · intro w
      rw [answered_save]
      exact Files.savesWhole_saveUnder c path files _
    · intro o m
      rw [answered_saveWith_save]
      exact Files.savesWhole_saveUnder c path files _

/-- A document replaces an older file, and the file beside it stays. -/
theorem saveToFile_savesWhole_park :
    let w := ((encode .park).run (.new .standard)).state
    let files := (Files.empty.put ["city.gml"] (.file [0])).put ["notes"]
      (.file [1])
    ∃ (text : String) (saved : Files), (render.run w).result = .ok text ∧
      answered (w.saveToFile "city.gml" files) = (.ok (), saved) ∧
      saved.contentAt? "city.gml" = some (Utf8.encode text.toList) ∧
      saved.get? ["notes"] = some (.file [1]) := by
  intro w files
  obtain ⟨text, hrender⟩ : ∃ text, (render.run w).result = .ok text :=
    exists_render Options.validate_standard .park
  have htarget : files.target "city.gml" = .ok ["city.gml"] := by
    decide +kernel
  have haccepts : files.Accepts "city.gml" (Utf8.encode text.toList).length :=
    ⟨⟨[], by decide +kernel⟩, rfl, ⟨_, htarget⟩⟩
  have hnotes : files.get? ["notes"] = some (.file [1]) := by decide +kernel
  obtain ⟨-, hwriter, -⟩ := saveToFile_savesWhole "city.gml" files
  have hwhole := hwriter w
  rcases hanswer : answered (w.saveToFile "city.gml" files) with
    ⟨result, saved⟩
  rw [hanswer, hrender] at hwhole
  obtain rfl : result = .ok () := hwhole.works.mpr ⟨text, rfl, haccepts⟩
  obtain ⟨_, ⟨⟩, hreplaced⟩ := hwhole.worked rfl
  obtain ⟨place, hplace, -, -, hother⟩ := hreplaced.only
  obtain rfl := Except.ok.inj (htarget.symm.trans hplace)
  exact ⟨text, saved, hrender, rfl, hreplaced.content,
    (hother ["notes"] (by decide)).trans hnotes⟩

end Writer

end CityMarkup
