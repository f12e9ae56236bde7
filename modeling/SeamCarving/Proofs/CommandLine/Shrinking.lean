import SeamCarving.Proofs.Carving.Recoloured
import SeamCarving.Proofs.CommandLine.Files
import SeamCarving.Proofs.CommandLine.Numeral
import SeamCarving.Proofs.CommandLine.Wording

/-!
# How a run of the command ends

A run opens the picture that its words ask for, saves the energies if they are asked for, reads the two sizes, carves,
and saves what is left; each of these may fail and ends the run. What a job comes to and the directory that it leaves
are followed from part to part (`Job.Ends`), up to the fate of the run once the energies are saved (`Request.Fate`).
Words that ask for nothing that can be done change no file (`execute_of_not_inWords`). Main statement: as which request
words are read, when a run of it succeeds, what it then has saved, that the energies have no part in it, and what a run
that fails leaves behind (`execute_shrinks`).
-/

namespace SeamCarving.CommandLine

namespace Job

variable {α β : Type}

/-- Run in a directory, the job ends with the result and leaves the other directory. The log is not looked at. -/
def Ends (job : Job α) (before : Directory) (result : Except Failure α) (after : Directory) : Prop :=
  ∀ log, ∃ log', job.run.run ⟨before, log⟩ = (result, ⟨after, log'⟩)

variable {first : Job α} {next : α → Job β} {before between after : Directory}

theorem Ends.bind {value : α} {result : Except Failure β} (start : first.Ends before (.ok value) between)
    (rest : (next value).Ends between result after) : (first >>= next).Ends before result after := by
  intro log
  obtain ⟨log', start_eq⟩ := start log
  obtain ⟨log'', rest_eq⟩ := rest log'
  refine ⟨log'', ?_⟩
  rw [ExceptT.run_bind, StateT.run_bind, start_eq]
  exact rest_eq

/-- A job that fails ends the run. -/
theorem Ends.bind_error {failure : Failure} (start : first.Ends before (.error failure) after) :
    (first >>= next).Ends before (.error failure) after := by
  intro log
  obtain ⟨log', start_eq⟩ := start log
  refine ⟨log', ?_⟩
  rw [ExceptT.run_bind, StateT.run_bind, start_eq]
  rfl

theorem ends_pure (directory : Directory) (value : α) : (pure value : Job α).Ends directory (.ok value) directory :=
  fun log => ⟨log, rfl⟩

theorem ends_log (directory : Directory) (lines : List LogLine) : (log lines).Ends directory (.ok ()) directory :=
  fun log => ⟨log ++ lines, rfl⟩

theorem ends_inform (directory : Directory) (message : String) :
    (inform message).Ends directory (.ok ()) directory :=
  ends_log directory _

theorem ends_throw (directory : Directory) (failure : Failure) :
    (throw failure : Job α).Ends directory (.error failure) directory :=
  fun log => ⟨log, rfl⟩

/-- A job that reads the world first goes on in the directory and whatever log there is. -/
theorem ends_get_bind {next : World → Job β} {result : Except Failure β}
    (rest : ∀ log, (next ⟨before, log⟩).Ends before result after) : (get >>= next).Ends before result after :=
  fun log => rest log log

theorem ends_set (directory : Directory) (world : World) :
    (set world : Job PUnit).Ends directory (.ok ()) world.directory :=
  fun _ => ⟨world.log, rfl⟩

theorem ends_openPicture {directory : Directory} {path : String} {picture : Picture}
    (opened : directory.openPicture path = .ok picture) :
    (openPicture path).Ends directory (.ok picture) directory := by
  refine ends_get_bind fun log => ?_
  simp only [opened]
  exact ends_pure directory picture

theorem ends_savePicture (directory : Directory) (path : String) (picture : Picture) :
    (savePicture path picture).Ends directory ((directory.savePicture path picture).2.mapError Failure.file)
      (directory.savePicture path picture).1 := by
  rcases saved : directory.savePicture path picture with ⟨after, outcome⟩
  refine ends_get_bind fun log => ?_
  simp only [saved]
  refine (ends_set directory ⟨after, log⟩).bind ?_
  cases outcome with
  | ok done => exact ends_pure after ()
  | error error => exact ends_throw after (.file error)

/-- Saving a picture and telling of it. Nothing is told if the picture cannot be saved. -/
theorem ends_savePicture_inform (directory : Directory) (path : String) (picture : Picture) (message : String) :
    (savePicture path picture >>= fun _ => inform message).Ends directory
      ((directory.savePicture path picture).2.mapError Failure.file) (directory.savePicture path picture).1 := by
  have saving := ends_savePicture directory path picture
  cases saved : (directory.savePicture path picture).2 with
  | ok done =>
      rw [saved] at saving
      exact saving.bind (ends_inform _ _)
  | error error =>
      rw [saved] at saving
      exact saving.bind_error

theorem ends_carving (directory : Directory) (traced : Traced α) :
    (carving traced).Ends directory (traced.outcome.mapError Failure.carving) directory := by
  refine (ends_log directory _).bind ?_
  cases traced.outcome with
  | ok result => exact ends_pure directory result
  | error error => exact ends_throw directory (.carving error)

end Job

/-- The size that is asked for is the number that a text writes, or the current size if there is no text. -/
inductive SizeAsked (current : Nat) : Option String → Nat → Prop
  | current : SizeAsked current none current
  | written {text : String} {size : Nat} (writes : Writes text size) (small : size < UInt32.size) :
      SizeAsked current (some text) size

theorem SizeAsked.unique {current size size' : Nat} {text? : Option String}
    (asked : SizeAsked current text? size) (asked' : SizeAsked current text? size') : size = size' := by
  cases asked with
  | current =>
      cases asked'
      rfl
  | written writes small =>
      cases asked' with
      | written writes' small' =>
          have read := parseSize?_eq_some_iff.2 ⟨writes, small⟩
          rw [parseSize?_eq_some_iff.2 ⟨writes', small'⟩, Option.some.injEq] at read
          exact read.symm

/-- A size is read, or its text writes no number that fits in 32 bits. -/
theorem Job.ends_size (directory : Directory) (current : Nat) (text? : Option String) :
    (∃ size, SizeAsked current text? size ∧ (Job.size current text?).Ends directory (.ok size) directory) ∨
    ∃ failure, (∀ size, ¬ SizeAsked current text? size) ∧
      (Job.size current text?).Ends directory (.error failure) directory := by
  cases text? with
  | none => exact Or.inl ⟨current, .current, ends_pure directory current⟩
  | some text =>
      cases read : parseSize? text with
      | some size =>
          obtain ⟨writes, small⟩ := parseSize?_eq_some_iff.1 read
          refine Or.inl ⟨size, .written writes small, ?_⟩
          rw [Job.size, read]
          exact ends_pure directory size
      | none =>
          refine Or.inr ⟨.size text, ?_, ?_⟩
          · intro size asked
            cases asked with
            | written writes small =>
                rw [parseSize?_eq_some_iff.2 ⟨writes, small⟩] at read
                contradiction
          · rw [Job.size, read]
            exact ends_throw directory (.size text)

/-- The directory after the energies of an image were saved, if a path for them is given. -/
def Directory.charted (directory : Directory) (image : Image (Pixel .rgb UInt8)) : Option String → Directory
  | none => directory
  | some path => (directory.savePicture path ⟨.luma, image.view.energyImage⟩).1

section

variable {directory : Directory} {image : Image (Pixel .rgb UInt8)} {path? : Option String}
  (mapped : ∀ path ∈ path?, (directory.savePicture path ⟨.luma, image.view.energyImage⟩).2 = .ok ())

include mapped

/-- Saving the energies changes no file but the one that they are saved in. -/
theorem Directory.find?_charted {name : String}
    (elsewhere : ∀ path ∈ path?, directory.follow .writing path ≠ .ok (.file name)) :
    (directory.charted image path?).find? name = directory.find? name := by
  cases path? with
  | none => rfl
  | some path =>
      obtain ⟨target, format, saves⟩ := exists_saves (mapped path rfl)
      have different : name ≠ target := by
        rintro rfl
        exact elsewhere path rfl saves.follow_eq
      rw [charted, saves.find?_savePicture, if_neg different]

theorem Directory.openPicture_charted : ∀ path ∈ path?, ∃ format, Format.ofPath? path = some format ∧
    (directory.charted image path?).openPicture path =
      .ok (format.kept ⟨.luma, image.view.energyImage⟩) := by
  rintro path rfl
  obtain ⟨target, format, saves⟩ := exists_saves (mapped path rfl)
  exact ⟨format, saves.ofPath?_eq, openPicture_of_saves saves _⟩

theorem Job.ends_writeEnergies :
    (writeEnergies image path?).Ends directory (.ok ()) (directory.charted image path?) := by
  cases path? with
  | none => exact ends_pure directory ()
  | some path =>
      have saving := ends_savePicture_inform directory path ⟨.luma, image.view.energyImage⟩
        s!"wrote energy map to {path}"
      rw [mapped path rfl] at saving
      exact saving

end

/-- The request asks for the size, and the picture without its alpha can be carved to it by the rule asked for. -/
structure Request.CarvesTo (request : Request) (picture : Picture) (width height : Nat)
    (done : Carver.Result (Pixel .rgb UInt8)) : Prop where
  width_asked : SizeAsked picture.image.width request.width width
  height_asked : SizeAsked picture.image.height request.height height
  course_eq : ((⟨picture.toRgb, request.leftEdge⟩ : Carver (Pixel .rgb UInt8)).course
    (.carve width height)).outcome = .ok done

/-- How a run goes on in a directory once its picture is opened and the energies are saved. -/
inductive Request.Fate (request : Request) (picture : Picture) (charted : Directory) :
    Except Failure Unit → Directory → Prop
  /-- A size cannot be read or the picture cannot be carved, and nothing more is written. -/
  | refused (failure : Failure) (no_carving : ∀ width height done, ¬ request.CarvesTo picture width height done) :
      Fate request picture charted (.error failure) charted
  /-- The picture is carved, and what is left is saved or not. -/
  | carved {width height : Nat} {done : Carver.Result (Pixel .rgb UInt8)}
      (carves : request.CarvesTo picture width height done) :
      Fate request picture charted
        ((charted.savePicture request.output ⟨.rgb, done.image⟩).2.mapError Failure.file)
        (charted.savePicture request.output ⟨.rgb, done.image⟩).1

namespace Job

/-- Carves an image as a request asks and saves what is left. -/
def carveAndSave (request : Request) (image : Image (Pixel .rgb UInt8)) (width height : Nat) : Job Unit := do
  let carved ← carving (image.carve request.leftEdge width height)
  savePicture request.output ⟨.rgb, carved⟩
  inform s!"wrote {request.output} ({carved.width}x{carved.height})"

theorem ofRequest_eq (request : Request) :
    ofRequest request = (do
      let picture ← openPicture request.input
      inform s!"loaded {request.input} ({picture.toRgb.width}x{picture.toRgb.height})"
      writeEnergies picture.toRgb request.energyMap
      let width ← size picture.toRgb.width request.width
      let height ← size picture.toRgb.height request.height
      carveAndSave request picture.toRgb width height) :=
  rfl

section

variable {request : Request} {picture : Picture} (charted : Directory)

theorem exists_fate_carveAndSave {width height : Nat}
    (width_asked : SizeAsked picture.image.width request.width width)
    (height_asked : SizeAsked picture.image.height request.height height) :
    ∃ result after, (carveAndSave request picture.toRgb width height).Ends charted result after ∧
      request.Fate picture charted result after := by
  have carving := ends_carving charted (picture.toRgb.carve request.leftEdge width height)
  have course_eq := (⟨picture.toRgb, request.leftEdge⟩ : Carver (Pixel .rgb UInt8)).course_carve width height
  cases ended : (picture.toRgb.carve request.leftEdge width height).outcome with
  | ok carved =>
      rw [ended] at carving
      have carves : request.CarvesTo picture width height ⟨carved, none⟩ := by
        refine ⟨width_asked, height_asked, ?_⟩
        rw [course_eq, ended]
        rfl
      exact ⟨_, _, carving.bind (ends_savePicture_inform charted request.output ⟨.rgb, carved⟩ _), .carved carves⟩
  | error error =>
      rw [ended] at carving
      refine ⟨_, _, carving.bind_error, .refused _ ?_⟩
      intro width' height' done carves
      rw [← width_asked.unique carves.width_asked, ← height_asked.unique carves.height_asked] at carves
      have succeeded := carves.course_eq
      rw [course_eq, ended] at succeeded
      contradiction

/-- From the reading of the sizes on. -/
theorem exists_fate_size :
    ∃ result after,
      (do
        let width ← size picture.toRgb.width request.width
        let height ← size picture.toRgb.height request.height
        carveAndSave request picture.toRgb width height : Job Unit).Ends charted result after ∧
      request.Fate picture charted result after := by
  rcases ends_size charted picture.toRgb.width request.width with
    ⟨width, width_asked, width_read⟩ | ⟨failure, unread, stopped⟩
  · rcases ends_size charted picture.toRgb.height request.height with
      ⟨height, height_asked, height_read⟩ | ⟨failure, unread, stopped⟩
    · obtain ⟨result, after, ends, fate⟩ := exists_fate_carveAndSave charted width_asked height_asked
      exact ⟨result, after, width_read.bind (height_read.bind ends), fate⟩
    · refine ⟨_, _, width_read.bind stopped.bind_error, .refused failure ?_⟩
      intro width' height' done carves
      exact unread height' carves.height_asked
  · refine ⟨_, _, stopped.bind_error, .refused failure ?_⟩
    intro width' height' done carves
    exact unread width' carves.width_asked

end

theorem exists_fate {request : Request} {directory : Directory} {picture : Picture}
    (opened : directory.openPicture request.input = .ok picture)
    (mapped : ∀ path ∈ request.energyMap,
      (directory.savePicture path ⟨.luma, picture.toRgb.view.energyImage⟩).2 = .ok ()) :
    ∃ result after, (ofRequest request).Ends directory result after ∧
      request.Fate picture (directory.charted picture.toRgb request.energyMap) result after := by
  obtain ⟨result, after, ends, fate⟩ := exists_fate_size (directory.charted picture.toRgb request.energyMap)
  refine ⟨result, after, ?_, fate⟩
  rw [ofRequest_eq]
  exact (ends_openPicture opened).bind ((ends_inform _ _).bind ((ends_writeEnergies mapped).bind ends))

end Job

/-- Whether the energies are asked for has no part in how the picture is carved. -/
theorem Request.carvesTo_energyMap_iff {request : Request} {picture : Picture} {path? : Option String}
    {width height : Nat} {done : Carver.Result (Pixel .rgb UInt8)} :
    { request with energyMap := path? }.CarvesTo picture width height done ↔
      request.CarvesTo picture width height done := by
  constructor
  · intro carves
    exact ⟨carves.width_asked, carves.height_asked, carves.course_eq⟩
  · intro carves
    exact ⟨carves.width_asked, carves.height_asked, carves.course_eq⟩

theorem Request.CarvesTo.size_eq {request : Request} {picture : Picture} {width height : Nat}
    {done : Carver.Result (Pixel .rgb UInt8)} (carves : request.CarvesTo picture width height done) :
    done.image.width = width ∧ done.image.height = height := by
  obtain ⟨width_eq, height_eq, -⟩ := attains_of_carve (Carver.carve_of_course carves.course_eq)
  exact ⟨width_eq, height_eq⟩

theorem Request.CarvesTo.unique {request : Request} {picture : Picture} {width height width' height' : Nat}
    {done done' : Carver.Result (Pixel .rgb UInt8)} (carves : request.CarvesTo picture width height done)
    (carves' : request.CarvesTo picture width' height' done') : done = done' := by
  rw [carves.width_asked.unique carves'.width_asked, carves.height_asked.unique carves'.height_asked] at carves
  have same := carves.course_eq
  rw [carves'.course_eq, Except.ok.injEq] at same
  exact same.symm

namespace Request.Fate

variable {request : Request} {picture : Picture} {charted after : Directory} {result : Except Failure Unit}

/-- A run that succeeds has carved the picture and could save what is left. -/
theorem exists_carvesTo (fate : request.Fate picture charted result after) (succeeded : result = .ok ()) :
    ∃ width height done, request.CarvesTo picture width height done ∧
      (charted.savePicture request.output ⟨.rgb, done.image⟩).2 = .ok () := by
  cases fate with
  | refused failure no_carving => contradiction
  | @carved width height done carves =>
      refine ⟨width, height, done, carves, ?_⟩
      cases saved : (charted.savePicture request.output ⟨.rgb, done.image⟩).2 with
      | ok nothing => rfl
      | error error =>
          rw [saved] at succeeded
          contradiction

/-- If the picture can be carved and what is left can be saved, then both is done. -/
theorem openPicture_eq (fate : request.Fate picture charted result after) {width height : Nat}
    {done : Carver.Result (Pixel .rgb UInt8)} (carves : request.CarvesTo picture width height done)
    (saved : (charted.savePicture request.output ⟨.rgb, done.image⟩).2 = .ok ()) :
    result = .ok () ∧ after.openPicture request.output = .ok ⟨.rgb, done.image⟩ := by
  cases fate with
  | refused failure no_carving => exact absurd carves (no_carving _ _ _)
  | @carved width' height' done' carves' =>
      obtain rfl := carves.unique carves'
      obtain ⟨name, format, saves⟩ := Directory.exists_saves saved
      constructor
      · rw [saved]
        rfl
      · rw [Directory.openPicture_of_saves saves, Format.kept_rgb]

theorem after_eq (fate : request.Fate picture charted result after)
    (no_carving : ¬ ∃ width height done, request.CarvesTo picture width height done) :
    (∃ failure, result = .error failure) ∧ after = charted := by
  cases fate with
  | refused failure => exact ⟨⟨failure, rfl⟩, rfl⟩
  | carved carves => exact absurd ⟨_, _, _, carves⟩ no_carving

end Request.Fate

/-- The number by which a run says whether it succeeded, and the directory that it leaves. -/
theorem execute_of_ends {words : List String} {level : Option Level} {directory after : Directory} {request : Request}
    {result : Except Failure Unit} (asked : request.InWords words)
    (ends : (Job.ofRequest request).Ends directory result after) :
    ((execute words level directory).exit = 0 ∧ result = .ok () ∨
      (execute words level directory).exit = 1 ∧ ∃ failure, result = .error failure) ∧
    (execute words level directory).directory = after := by
  obtain ⟨log, run_eq⟩ := ends []
  simp only [execute, readRequest_eq_ok_iff.2 asked, run_eq]
  cases result with
  | ok nothing => exact ⟨Or.inl ⟨rfl, rfl⟩, rfl⟩
  | error failure => exact ⟨Or.inr ⟨rfl, failure, rfl⟩, rfl⟩

/-- Words that ask for no request leave all files as they are, and only those that ask for information succeed. -/
theorem execute_of_not_inWords {words : List String} (unasked : ∀ request : Request, ¬ request.InWords words)
    (level : Option Level) (directory : Directory) :
    (execute words level directory).directory = directory ∧
    ((execute words level directory).exit = 0 ∧
        (execute words level directory).output ∈ [helpLines, [versionLine]] ∨
      (execute words level directory).exit = 1 ∧ (execute words level directory).output = []) := by
  cases read : readRequest words with
  | ok request => exact absurd (readRequest_eq_ok_iff.1 read) (unasked request)
  | error stop =>
      simp only [execute, read]
      cases stop with
      | help => exact ⟨rfl, Or.inl ⟨rfl, by simp⟩⟩
      | version => exact ⟨rfl, Or.inl ⟨rfl, by simp⟩⟩
      | refused error => exact ⟨rfl, Or.inr ⟨rfl, rfl⟩⟩

section

variable {words : List String} {directory : Directory} {request : Request} {picture : Picture} (level : Option Level)
  (asked : request.InWords words) (opened : directory.openPicture request.input = .ok picture)
  (mapped : ∀ path ∈ request.energyMap,
    (directory.savePicture path ⟨.luma, picture.toRgb.view.energyImage⟩).2 = .ok ())

include asked opened mapped

theorem execute_fate :
    ∃ result, ((execute words level directory).exit = 0 ∧ result = .ok () ∨
        (execute words level directory).exit = 1 ∧ ∃ failure, result = .error failure) ∧
      request.Fate picture (directory.charted picture.toRgb request.energyMap) result
        (execute words level directory).directory := by
  obtain ⟨result, after, ends, fate⟩ := Job.exists_fate opened mapped
  obtain ⟨exits, directory_eq⟩ := execute_of_ends asked ends
  exact ⟨result, exits, directory_eq ▸ fate⟩

theorem execute_exit_cases : (execute words level directory).exit = 0 ∨ (execute words level directory).exit = 1 := by
  obtain ⟨result, exits, -⟩ := execute_fate level asked opened mapped
  exact exits.imp And.left And.left

/-- If the picture can be carved and what is left can be saved, the run succeeds and has saved it. -/
theorem execute_of_carvesTo {width height : Nat} {done : Carver.Result (Pixel .rgb UInt8)}
    (carves : request.CarvesTo picture width height done)
    (saved : (directory.savePicture request.output ⟨.rgb, done.image⟩).2 = .ok ()) :
    (execute words level directory).exit = 0 ∧
      (execute words level directory).directory.openPicture request.output = .ok ⟨.rgb, done.image⟩ := by
  obtain ⟨result, exits, fate⟩ := execute_fate level asked opened mapped
  obtain ⟨succeeded, read⟩ := fate.openPicture_eq carves (Directory.saved_of_saved saved _ _)
  refine ⟨?_, read⟩
  rcases exits with ⟨exit_eq, -⟩ | ⟨-, failure, failed⟩
  · exact exit_eq
  · rw [succeeded] at failed
    contradiction

theorem execute_exit_eq_zero_iff :
    (execute words level directory).exit = 0 ↔ ∃ width height done, request.CarvesTo picture width height done ∧
      (directory.savePicture request.output ⟨.rgb, done.image⟩).2 = .ok () := by
  constructor
  · intro exit_eq
    obtain ⟨result, ⟨-, succeeded⟩ | ⟨failed, -⟩, fate⟩ := execute_fate level asked opened mapped
    · obtain ⟨width, height, done, carves, saved⟩ := fate.exists_carvesTo succeeded
      exact ⟨width, height, done, carves, Directory.saved_of_saved saved _ _⟩
    · rw [exit_eq] at failed
      contradiction
  · rintro ⟨width, height, done, carves, saved⟩
    exact (execute_of_carvesTo level asked opened mapped carves saved).1

/-- If the picture cannot be carved as the request asks, nothing is saved but the energies. -/
theorem execute_of_no_carving
    (no_carving : ¬ ∃ width height done, request.CarvesTo picture width height done) :
    (execute words level directory).exit = 1 ∧
      (execute words level directory).directory = directory.charted picture.toRgb request.energyMap := by
  obtain ⟨result, exits, fate⟩ := execute_fate level asked opened mapped
  obtain ⟨⟨failure, failed⟩, directory_eq⟩ := fate.after_eq no_carving
  refine ⟨?_, directory_eq⟩
  rcases exits with ⟨-, succeeded⟩ | ⟨exit_eq, -⟩
  · rw [failed] at succeeded
    contradiction
  · exact exit_eq

end

/-- Words are read as the request that they ask for, and every request has words, whatever the texts of its sizes are
    and whichever rule it asks for. A run of it that can open its picture, and save the energies if they are asked for,
    succeeds exactly if each size that is given is a number that fits in 32 bits, the picture without its alpha can be
    carved by the rule to the size asked for, and what is left can be saved. The output then holds what is left, in the size asked for, and it is the same whether
    the energies are asked for or not, wherever they are written. If a size cannot be read or the picture cannot be
    carved, the run fails and leaves the directory as it was but for the picture of the energies: the file of the
    output is as before, unless the energies were written there, and the energies can be read back. -/
theorem execute_shrinks {words : List String} {directory : Directory} {request : Request} {picture : Picture}
    (level : Option Level) (asked : request.InWords words)
    (opened : directory.openPicture request.input = .ok picture)
    (mapped : ∀ path ∈ request.energyMap,
      (directory.savePicture path ⟨.luma, picture.toRgb.view.energyImage⟩).2 = .ok ()) :
    let run := execute words level directory
    (readRequest words = .ok request ∧ readRequest request.words = .ok request) ∧
    (run.exit = 0 ∨ run.exit = 1) ∧
    (run.exit = 0 ↔ ∃ width height done, request.CarvesTo picture width height done ∧
      (directory.savePicture request.output ⟨.rgb, done.image⟩).2 = .ok ()) ∧
    (∀ width height done, request.CarvesTo picture width height done → run.exit = 0 →
      run.directory.openPicture request.output = .ok ⟨.rgb, done.image⟩ ∧
      done.image.width = width ∧ done.image.height = height) ∧
    (∀ words' level', { request with energyMap := none }.InWords words' →
      let plain := execute words' level' directory
      plain.exit = run.exit ∧
      (run.exit = 0 →
        plain.directory.openPicture request.output = run.directory.openPicture request.output)) ∧
    ((¬ ∃ width height done, request.CarvesTo picture width height done) →
      run.exit = 1 ∧
      run.directory = directory.charted picture.toRgb request.energyMap ∧
      (∀ name, directory.follow .writing request.output = .ok (.file name) →
        (∀ path ∈ request.energyMap, directory.follow .writing path ≠ .ok (.file name)) →
          run.directory.find? name = directory.find? name) ∧
      ∀ path ∈ request.energyMap, ∃ format, Format.ofPath? path = some format ∧
        run.directory.openPicture path = .ok (format.kept ⟨.luma, picture.toRgb.view.energyImage⟩)) := by
  intro run
  have exits_iff : run.exit = 0 ↔ _ := execute_exit_eq_zero_iff level asked opened mapped
  have exits : run.exit = 0 ∨ run.exit = 1 := execute_exit_cases level asked opened mapped
  have holds : ∀ width height done, request.CarvesTo picture width height done → run.exit = 0 →
      run.directory.openPicture request.output = .ok ⟨.rgb, done.image⟩ := by
    intro width height done carves exit_eq
    obtain ⟨_, _, done', carves', saved⟩ := exits_iff.1 exit_eq
    obtain rfl := carves.unique carves'
    exact (execute_of_carvesTo level asked opened mapped carves saved).2
  refine ⟨⟨readRequest_eq_ok_iff.2 asked, readRequest_eq_ok_iff.2 request.inWords_words⟩, exits, exits_iff, ?_, ?_, ?_⟩
  · intro width height done carves exit_eq
    exact ⟨holds width height done carves exit_eq, carves.size_eq⟩
  · intro words' level' asked' plain
    have nothing_mapped : ∀ path ∈ (none : Option String),
        (directory.savePicture path ⟨.luma, picture.toRgb.view.energyImage⟩).2 = .ok () := by
      intro path absent
      contradiction
    have plain_exits : plain.exit = 0 ∨ plain.exit = 1 :=
      execute_exit_cases level' asked' opened nothing_mapped
    have plain_iff : plain.exit = 0 ↔ _ := execute_exit_eq_zero_iff level' asked' opened nothing_mapped
    simp only [Request.carvesTo_energyMap_iff, ← exits_iff] at plain_iff
    refine ⟨by omega, ?_⟩
    intro exit_eq
    obtain ⟨width, height, done, carves, saved⟩ := exits_iff.1 exit_eq
    rw [holds width height done carves exit_eq]
    exact (execute_of_carvesTo level' asked' opened nothing_mapped
      (Request.carvesTo_energyMap_iff.2 carves) saved).2
  · intro no_carving
    obtain ⟨exit_eq, directory_eq⟩ := execute_of_no_carving level asked opened mapped no_carving
    refine ⟨exit_eq, directory_eq, ?_, ?_⟩
    · intro name led elsewhere
      rw [directory_eq]
      exact Directory.find?_charted mapped elsewhere
    · rw [directory_eq]
      exact Directory.openPicture_charted mapped

/-- The energies may be written over the very picture that is carved, by a rule that is named and in words in any order. -/
theorem execute_shrinks_veiled :
    let directory : Directory := ⟨[("i.png", .picture ⟨.rgba, Image.veiled 9⟩)]⟩
    let request : Request := ⟨"i.png", "o.png", some "3", some "+03", .previous, some "i.png"⟩
    let words := ["i.png", "--left-edge", "previous", "o.png", "--height=+03", "--width", "3", "--energy-map", "i.png"]
    let plain_words := ["--width=3", "--height", "+03", "--left-edge=previous", "--", "i.png", "o.png"]
    let run := execute words none directory
    let plain := execute plain_words none directory
    (request.InWords words ∧ { request with energyMap := none }.InWords plain_words ∧
      directory.openPicture "i.png" = .ok ⟨.rgba, Image.veiled 9⟩) ∧
    run.exit = 0 ∧ plain.exit = 0 ∧ ∃ image, image.width = 3 ∧ image.height = 3 ∧
      (((Image.veiled 9).map Pixel.toRgb).carve .previous 3 3).outcome = .ok image ∧
      run.directory.openPicture "o.png" = .ok ⟨.rgb, image⟩ ∧
      plain.directory.openPicture "o.png" = .ok ⟨.rgb, image⟩ := by
  intro directory request words plain_words run plain
  have input : directory.Saves "i.png" "i.png" .png :=
    directory.saves_of_name (by decide) (by decide) (by decide) (by decide) (by decide +kernel)
  have output : directory.Saves "o.png" "o.png" .png :=
    directory.saves_of_name (by decide) (by decide) (by decide) (by decide) (by decide +kernel)
  have asked : request.InWords words := readRequest_eq_ok_iff.1 (by decide)
  have plainly_asked : { request with energyMap := none }.InWords plain_words := readRequest_eq_ok_iff.1 (by decide)
  have opened : directory.openPicture "i.png" = .ok ⟨.rgba, Image.veiled 9⟩ := input.openPicture_of_find? rfl
  have width : Writes "3" 3 ∧ 3 < UInt32.size := parseSize?_eq_some_iff.1 (by decide)
  have height : Writes "+03" 3 ∧ 3 < UInt32.size := parseSize?_eq_some_iff.1 (by decide)
  obtain ⟨result, ended⟩ := ((Image.veiled 9).map Pixel.toRgb).exists_carve .previous
    (show ¬ (4 < 3 ∨ 4 < 3) by decide) (attains_iff.2 (by decide))
  have carves : request.CarvesTo ⟨.rgba, Image.veiled 9⟩ 3 3 ⟨result, none⟩ :=
    ⟨.written width.1 width.2, .written height.1 height.2, Carver.course_of_carve ended⟩
  obtain ⟨-, -, succeeds, holds, alike, -⟩ := execute_shrinks none asked opened (by
    rintro path ⟨⟩
    rw [input.savePicture_eq])
  have exit_eq : run.exit = 0 := succeeds.2 ⟨3, 3, _, carves, by rw [output.savePicture_eq]⟩
  obtain ⟨read, width_eq, height_eq⟩ := holds 3 3 _ carves exit_eq
  obtain ⟨plain_exit, plain_read⟩ := alike _ none plainly_asked
  exact ⟨⟨asked, plainly_asked, opened⟩, exit_eq, plain_exit.trans exit_eq, result, width_eq, height_eq, ended, read,
    (plain_read exit_eq).trans read⟩

end SeamCarving.CommandLine
