import SeamCarving.CommandLine.Directory
import SeamCarving.Proofs.Text.Splitting

/-!
# Files that are written and read

A path that a picture can be written to leads to one file, whatever files there are, and a reader is led to the same
file. Writing changes this file alone. Main statement: a picture that was saved is read back as its format keeps it
(`openPicture_of_saves`).
-/

namespace SeamCarving.CommandLine

theorem Except.bind_eq_ok_iff {ε α β : Type} {first : Except ε α} {next : α → Except ε β} {result : β} :
    first >>= next = .ok result ↔ ∃ between, first = .ok between ∧ next between = .ok result := by
  cases first with
  | error error => simp [bind, Except.bind]
  | ok between => simp [bind, Except.bind]

/-! ## Where paths lead -/

/-- Only a directory can be entered, whatever files there are. -/
theorem Place.enter_of_ok {holds holds' : String → Bool} {place : Place} {spot : Spot}
    (entered : place.enter holds = .ok spot) : place.enter holds' = .ok spot := by
  cases place with
  | directory here => exact entered
  | file name => contradiction
  | systemFile => contradiction

theorem Spot.walk_of_ok {holds holds' : String → Bool} {steps : List String} {start last : Spot}
    (walked : steps.foldlM (fun spot name => do (← spot.step name).enter holds) start = .ok last) :
    steps.foldlM (fun spot name => do (← spot.step name).enter holds') start = .ok last := by
  induction steps generalizing start with
  | nil => exact walked
  | cons name steps ih =>
      rw [List.foldlM_cons] at walked ⊢
      obtain ⟨spot, moved, others⟩ := Except.bind_eq_ok_iff.1 walked
      obtain ⟨place, stepped, entered⟩ := Except.bind_eq_ok_iff.1 moved
      refine Except.bind_eq_ok_iff.2 ⟨spot, ?_, ih others⟩
      exact Except.bind_eq_ok_iff.2 ⟨place, stepped, Place.enter_of_ok entered⟩

/-- Where a writer is led depends on no file, and a reader is led there too. -/
theorem followPath_of_writing {holds holds' : String → Bool} {path : String} {place : Place}
    (led : followPath holds .writing path = .ok place) (purpose : Purpose) :
    followPath holds' purpose path = .ok place := by
  unfold followPath at led ⊢
  simp only at led ⊢
  split at led
  · contradiction
  · next named =>
      rw [if_neg named]
      split at led
      · contradiction
      · next short =>
          rw [if_neg short]
          cases last : (List.filter (· ≠ "") (path.splitOn "/")).getLast? with
          | none =>
              rw [last] at led
              exact led
          | some name =>
              rw [last] at led
              obtain ⟨spot, walked, stepped⟩ := Except.bind_eq_ok_iff.1 led
              refine Except.bind_eq_ok_iff.2 ⟨spot, Spot.walk_of_ok walked, ?_⟩
              split at stepped
              · contradiction
              · next bare =>
                  rw [if_neg bare]
                  exact stepped

theorem splitOn_of_name {name : String} (plain : '/' ∉ name.toList) : name.splitOn "/" = [name] := by
  have pieces := Text.splitOn_singleton name '/'
  rw [List.splitOn_eq_singleton plain, List.map_singleton, String.ofList_toList] at pieces
  exact pieces

/-- A name that has no slash leads to the file of that name. -/
theorem followPath_of_name {holds : String → Bool} {purpose : Purpose} {name : String}
    (plain : '/' ∉ name.toList) (named : name ≠ "") (apart : name ≠ "." ∧ name ≠ "..")
    (short : name.utf8ByteSize ≤ maxStepBytes) : followPath holds purpose name = .ok (.file name) := by
  have within : ¬ maxPathBytes < name.utf8ByteSize := by
    have bounds : maxStepBytes < maxPathBytes := by decide
    omega
  simp [followPath, splitOn_of_name plain, named, within, Spot.step, apart, Nat.not_lt_of_le short]

/-- The extension of such a name is that of the file. -/
theorem pathExtension?_of_name {name : String} (plain : '/' ∉ name.toList) (named : name ≠ "")
    (apart : name ≠ "." ∧ name ≠ "..") : pathExtension? name = extension? name := by
  simp [pathExtension?, splitOn_of_name plain, named, apart]

/-! ## What files hold -/

theorem toRgb_of_rgb {χ : Type} (pixel : Pixel .rgb χ) : pixel.toRgb = pixel := by
  obtain ⟨channels⟩ := pixel
  refine congrArg Pixel.mk (Vector.ext ?_)
  intro index inside
  match index, inside with
  | 0, _ => rfl
  | 1, _ => rfl
  | 2, _ => rfl

/-- A picture without alpha, each pixel with its three colours, is kept by every format. -/
theorem Format.kept_rgb (format : Format) (image : Image (Pixel .rgb UInt8)) :
    format.kept ⟨.rgb, image⟩ = ⟨.rgb, image⟩ := by
  cases format with
  | png => rfl
  | bmp =>
      refine congrArg (Picture.mk .rgb) ?_
      refine Image.ext_pixel rfl rfl ?_
      intro x y hx hy
      exact (Image.pixel_map Pixel.toRgb image hx hy).trans (toRgb_of_rgb _)

namespace Directory

variable {directory : Directory} {path name : String} {picture : Picture}

/-- A place that a writer is led to is the one that anyone is led to, also after files have changed. -/
theorem follow_of_writing {place : Place} (led : directory.follow .writing path = .ok place) (other : Directory)
    (purpose : Purpose) : other.follow purpose path = .ok place :=
  followPath_of_writing led purpose

theorem lookup_cons_eq (key other : String) (file : File) (entries : List (String × File)) :
    ((key, file) :: entries).lookup other = if other = key then some file else entries.lookup other := by
  rw [List.lookup_cons]
  by_cases same : other = key
  · rw [if_pos same, beq_iff_eq.2 same]
  · rw [if_neg same, beq_eq_false_iff_ne.2 same]

theorem lookup_placed (name other : String) (file : File) (entries : List (String × File)) :
    (placed name file entries).lookup other = if other = name then some file else entries.lookup other := by
  induction entries with
  | nil => exact lookup_cons_eq name other file []
  | cons entry entries ih =>
      obtain ⟨held, old⟩ := entry
      rw [placed, lookup_cons_eq]
      by_cases here : held = name
      · subst here
        rw [if_pos rfl, lookup_cons_eq]
        split <;> rfl
      · rw [if_neg here, lookup_cons_eq, ih]
        by_cases same : other = held
        · subst same
          rw [if_pos rfl, if_neg here, if_pos rfl]
        · rw [if_neg same, if_neg same]

/-- Writing a file changes what is found under its name, and nothing else. -/
theorem find?_insert (directory : Directory) (name other : String) (file : File) :
    (directory.insert name file).find? other = if other = name then some file else directory.find? other :=
  lookup_placed name other file directory.entries

/-- A picture can be saved at a path that leads to a file and names a format. -/
structure Saves (directory : Directory) (path name : String) (format : Format) : Prop where
  follow_eq : directory.follow .writing path = .ok (.file name)
  ofPath?_eq : Format.ofPath? path = some format

variable {format : Format}

theorem Saves.anywhere (saves : directory.Saves path name format) (other : Directory) :
    other.Saves path name format :=
  ⟨follow_of_writing saves.follow_eq other .writing, saves.ofPath?_eq⟩

theorem Saves.savePicture_eq (saves : directory.Saves path name format) (picture : Picture) :
    directory.savePicture path picture = (directory.insert name (.ofPicture format picture), .ok ()) := by
  simp only [savePicture, saves.follow_eq, saves.ofPath?_eq]

/-- The saving of a picture succeeds for no other path. -/
theorem exists_saves (saved : (directory.savePicture path picture).2 = .ok ()) :
    ∃ name format, directory.Saves path name format := by
  unfold savePicture at saved
  cases led : directory.follow .writing path with
  | error fault =>
      rw [led] at saved
      contradiction
  | ok place =>
      rw [led] at saved
      cases place with
      | directory spot => contradiction
      | systemFile => contradiction
      | file name =>
          cases known : Format.ofPath? path with
          | none =>
              rw [known] at saved
              contradiction
          | some format => exact ⟨name, format, led, known⟩

/-- Whether a picture can be saved at a path depends neither on the picture nor on the files. -/
theorem saved_of_saved (saved : (directory.savePicture path picture).2 = .ok ()) (other : Directory)
    (picture' : Picture) : (other.savePicture path picture').2 = .ok () := by
  obtain ⟨name, format, saves⟩ := exists_saves saved
  rw [(saves.anywhere other).savePicture_eq]

theorem Saves.find?_savePicture (saves : directory.Saves path name format) (picture : Picture) (other : String) :
    (directory.savePicture path picture).1.find? other =
      if other = name then some (.ofPicture format picture) else directory.find? other := by
  rw [saves.savePicture_eq, find?_insert]

theorem Saves.openPicture_of_find? (saves : directory.Saves path name format)
    (present : directory.find? name = some (.picture picture)) : directory.openPicture path = .ok picture := by
  have led : directory.follow .reading path = .ok (.file name) :=
    follow_of_writing saves.follow_eq directory .reading
  simp only [openPicture, led, saves.ofPath?_eq, present, File.read]

/-- A picture that was saved is read back from its path. -/
theorem openPicture_of_saves (saves : directory.Saves path name format) (picture : Picture) :
    (directory.savePicture path picture).1.openPicture path = .ok (format.kept picture) := by
  refine (saves.anywhere _).openPicture_of_find? ?_
  rw [saves.find?_savePicture, if_pos rfl]
  rfl

theorem saves_of_name (directory : Directory) (plain : '/' ∉ name.toList) (named : name ≠ "")
    (apart : name ≠ "." ∧ name ≠ "..") (short : name.utf8ByteSize ≤ maxStepBytes)
    (known : (extension? name).bind Format.ofExtension? = some format) : directory.Saves name name format := by
  refine ⟨followPath_of_name plain named apart short, ?_⟩
  rw [Format.ofPath?, pathExtension?_of_name plain named apart, known]

end Directory

end SeamCarving.CommandLine
