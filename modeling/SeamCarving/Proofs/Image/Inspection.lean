import SeamCarving.Proofs.Image.Pixels

/-!
# Computations that look at pixels

An inspection asks for pixels one place at a time, and what it asks for next may depend on what it has been shown.
It can be made of any view, and of a view it sees nothing but the pixels that it asks for. A view refuses a place
only where the image underneath it ends, so nothing but the inspection itself keeps it within the view. Main
statements: what an inspection asks for stays within the sizes if that holds of all its parts (`Within.bind`,
`Within.ofFnM`), and then two views that show the same pixels within those sizes cannot be told apart
(`Within.answer?_eq`).
-/

namespace SeamCarving

/-- A computation that asks for pixels by their places. -/
inductive Inspection (π α : Type) where
  | done (result : α)
  /-- Asks for a place, and goes on with the pixel that it shows. -/
  | ask (x y : Nat) (next : π → Inspection π α)

namespace Inspection

variable {π α β : Type}

/-- Goes on with the result of `first`. -/
def andThen (first : Inspection π α) (next : α → Inspection π β) : Inspection π β :=
  match first with
  | done result => next result
  | ask x y later => ask x y fun pixel => (later pixel).andThen next

instance : Monad (Inspection π) where
  pure := done
  bind := andThen

/-- Asks for one pixel. -/
def look (x y : Nat) : Inspection π π :=
  ask x y done

/-- What the inspection of a view comes to, absent if it asks for a place where the image underneath has no
    pixel. -/
def answer? (view : View π) : Inspection π α → Option α
  | done result => some result
  | ask x y next => (view.pixel? x y).bind fun pixel => (next pixel).answer? view

/-- Whatever it is shown, the inspection asks for places within the sizes only. -/
inductive Within (width height : Nat) : Inspection π α → Prop
  | done (result : α) : Within width height (done result)
  | ask {x y : Nat} {next : π → Inspection π α} (hx : x < width) (hy : y < height)
      (later : ∀ pixel, Within width height (next pixel)) : Within width height (ask x y next)

/-- The same inspection made in a picture that is seen along the axis, with the places as they are called in the
    picture itself. -/
def along (axis : Axis) : Inspection π α → Inspection π α
  | done result => done result
  | ask x y next =>
      match axis with
      | .vertical => ask x y fun pixel => (next pixel).along .vertical
      | .horizontal => ask y x fun pixel => (next pixel).along .horizontal

theorem ask_bind (x y : Nat) (later : π → Inspection π α) (next : α → Inspection π β) :
    ask x y later >>= next = ask x y fun pixel => later pixel >>= next :=
  rfl

theorem map_id (first : Inspection π α) : id <$> first = first := by
  induction first with
  | done result => rfl
  | ask x y later ih => exact congrArg (ask x y) (funext ih)

theorem bind_assoc {γ : Type} (first : Inspection π α) (next : α → Inspection π β)
    (last : β → Inspection π γ) :
    first >>= next >>= last = first >>= fun result => next result >>= last := by
  induction first with
  | done result => rfl
  | ask x y later ih => exact congrArg (ask x y) (funext ih)

instance : LawfulMonad (Inspection π) :=
  LawfulMonad.mk' (Inspection π) map_id (fun _ _ => rfl) bind_assoc

section

variable {view : View π} {first : Inspection π α} {next : α → Inspection π β} {width height : Nat}

theorem answer?_pure (result : α) : (pure result : Inspection π α).answer? view = some result :=
  rfl

/-- An inspection in two parts comes to what the second makes of the result of the first. -/
theorem answer?_bind :
    (first >>= next).answer? view = (first.answer? view).bind fun result => (next result).answer? view := by
  induction first with
  | done result => rfl
  | ask x y later ih =>
      rw [ask_bind, answer?, answer?, Option.bind_assoc]
      exact congrArg (Option.bind _) (funext ih)

theorem answer?_map (f : α → β) : (f <$> first).answer? view = (first.answer? view).map f := by
  rw [map_eq_pure_bind, answer?_bind]
  cases first.answer? view <;> rfl

theorem answer?_look {x y : Nat} (hx : x < view.width) (hy : y < view.height) :
    (look x y).answer? view = some (view.pixel x y hx hy) := by
  rw [look, answer?, view.pixel?_eq_some hx hy]
  rfl

/-- A view that is seen along an axis is inspected by inspecting the view itself. -/
theorem answer?_along (axis : Axis) : (first.along axis).answer? view = first.answer? (view.along axis) := by
  induction first with
  | done result => rfl
  | ask x y later ih =>
      cases axis with
      | vertical =>
          simp only [along, answer?, ih]
          rfl
      | horizontal =>
          simp only [along, answer?, ih, View.along_horizontal, View.pixel?_transpose]

theorem Within.pure (result : α) : (pure result : Inspection π α).Within width height :=
  .done result

theorem Within.look {x y : Nat} (hx : x < width) (hy : y < height) :
    (Inspection.look x y : Inspection π π).Within width height :=
  .ask hx hy .done

/-- An inspection stays within the sizes if both of its parts do. -/
theorem Within.bind (within : first.Within width height) (later : ∀ result, (next result).Within width height) :
    (first >>= next).Within width height := by
  induction within with
  | done result => exact later result
  | ask hx hy _ ih => exact .ask hx hy ih

theorem Within.map (within : first.Within width height) (f : α → β) : (f <$> first).Within width height := by
  rw [map_eq_pure_bind]
  exact within.bind fun result => .pure (f result)

theorem Within.along_horizontal (within : first.Within width height) :
    (first.along .horizontal).Within height width := by
  induction within with
  | done result => exact .done result
  | ask hx hy _ ih => exact .ask hy hx ih

/-- Views that show the same pixels within the sizes have the same inspection. -/
theorem Within.answer?_eq {other : View π} (within : first.Within width height)
    (same : ∀ x y, x < width → y < height → view.pixel? x y = other.pixel? x y) :
    first.answer? view = first.answer? other := by
  induction within with
  | done result => rfl
  | @ask x y next hx hy _ ih =>
      rw [answer?, answer?, same x y hx hy]
      exact congrArg (Option.bind _) (funext ih)

end

end Inspection

/-! ## Images made by asking for each of their pixels -/

section

variable {π ρ : Type}

/-- The image with the given cells, row by row. -/
def Image.ofVector (width height : Nat) (cells : Vector π (width * height)) : Image π :=
  ⟨⟨width, height, cells.toArray⟩, cells.size_toArray⟩

/-- The image whose pixels are the answers of `paint`, asked once for each place, row by row. -/
def Image.ofFnM {m : Type → Type} [Monad m] (width height : Nat) (paint : Nat → Nat → m π) : m (Image π) :=
  ofVector width height <$> Vector.ofFnM fun place => paint (place % width) (place / width)

namespace Inspection

variable {view : View π}

theorem answer?_vector {size : Nat} {value : Fin size → Inspection π ρ} {found : Fin size → ρ}
    (answers : ∀ index, (value index).answer? view = some (found index)) :
    (Vector.ofFnM value).answer? view = some (Vector.ofFn found) := by
  induction size with
  | zero => simp [answer?_pure]
  | succ size ih =>
      have before := ih fun index => answers index.castSucc
      rw [Vector.ofFnM_succ, answer?_bind, before, Option.bind_some, answer?_bind, answers (Fin.last size),
        Option.bind_some, answer?_pure, Vector.ofFn_succ]
      rfl

theorem Within.vector {size width height : Nat} {value : Fin size → Inspection π ρ}
    (within : ∀ index, (value index).Within width height) : (Vector.ofFnM value).Within width height := by
  induction size with
  | zero =>
      rw [Vector.ofFnM_zero]
      exact .pure _
  | succ size ih =>
      rw [Vector.ofFnM_succ]
      refine (ih fun index => within index.castSucc).bind ?_
      intro cells
      exact (within (Fin.last size)).bind fun cell => .pure _

/-- An image is found by asking for its pixels, one place after another. -/
theorem answer?_ofFnM {image : Image ρ} {paint : Nat → Nat → Inspection π ρ}
    (answers : ∀ x y hx hy, (paint x y).answer? view = some (image.pixel x y hx hy)) :
    (Image.ofFnM image.width image.height paint).answer? view = some image := by
  have columns : ∀ place : Fin (image.width * image.height), place % image.width < image.width := fun place =>
    Nat.mod_lt _ (Nat.pos_of_mul_pos_right (Nat.zero_lt_of_lt place.isLt))
  have rows : ∀ place : Fin (image.width * image.height), place / image.width < image.height := fun place =>
    Nat.div_lt_of_lt_mul place.isLt
  have whole : Image.ofFn image.width image.height image.pixel = image :=
    Image.ext_pixel rfl rfl fun x y hx hy => Image.pixel_ofFn _ hx hy
  rw [Image.ofFnM, answer?_map, answer?_vector fun place => answers _ _ (columns place) (rows place)]
  refine congrArg some (Eq.trans ?_ whole)
  simp [Image.ofVector, Image.ofFn]

theorem Within.ofFnM {width height wide high : Nat} {paint : Nat → Nat → Inspection π ρ}
    (within : ∀ x y, x < width → y < height → (paint x y).Within wide high) :
    (Image.ofFnM width height paint).Within wide high := by
  refine (Within.vector ?_).map _
  intro place
  have wide_enough := Nat.pos_of_mul_pos_right (Nat.zero_lt_of_lt place.isLt)
  exact within _ _ (Nat.mod_lt _ wide_enough) (Nat.div_lt_of_lt_mul place.isLt)

end Inspection

end

end SeamCarving
