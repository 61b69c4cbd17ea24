import LatexFigures.Drawing.Plan
import LatexFigures.Proofs.Number.Finite

/-! Where coordinates are finite. The map into output units gives 0 for what is not finite, but it
looks before it rounds to two decimals, and rounding takes a hundredfold of a coordinate on the way.
-/

namespace LatexFigures

open Number

-----------------------------------------------------------------------------------------
-- Coordinates
-----------------------------------------------------------------------------------------

namespace Frame

/-- Rounding (output), the image of (v), overflows: both are finite, but a hundredfold is not. -/
def Overflows (v output : Float) : Prop :=
  v.isFinite = true
  ∧ output.isFinite = true
  ∧ (output * Scalar.ofNat 100).isFinite = false

instance (v output : Float) : Decidable (Overflows v output) :=
  inferInstanceAs (Decidable (_ ∧ _))

/-- Where (v) lies horizontally in output units, before rounding. -/
def imageX (frame : Frame Float) (v : Float) : Float := (v - frame.left) * frame.xunit

/-- Where (v) lies vertically in output units, before rounding. -/
def imageY (frame : Frame Float) (v : Float) : Float := (frame.top - v) * frame.yunit

variable {v output : Float}

/-- What is placed is finite exactly if rounding it does not overflow. -/
theorem isFinite_place_iff : (place v output).isFinite = true ↔ ¬ Overflows v output := by
  have zero : (Scalar.ofNat 0 : Float).isFinite = true := by decide +kernel
  unfold place
  split
  · rename_i both
    obtain ⟨input, image⟩ := Bool.and_eq_true_iff.mp both
    rw [isFinite_hundredths, Overflows]
    constructor
    · rintro fits ⟨-, -, overflows⟩
      rw [fits] at overflows
      cases overflows
    · intro fits
      cases overflows : (output * Scalar.ofNat 100).isFinite with
      | true => rfl
      | false => exact absurd ⟨input, image, overflows⟩ fits
  · rename_i either
    refine iff_of_true zero ?_
    rintro ⟨input, image, -⟩
    exact either (Bool.and_eq_true_iff.mpr ⟨input, image⟩)

/-- Images of magnitudes below 2^1016 are rounded without overflow. -/
theorem not_overflows_of_moderate (moderate : (Dyadic.ofFloat output).exponent ≤ 963)
    : ¬ Overflows v output := by
  rintro ⟨-, finite, overflows⟩
  rw [isFinite_mul_hundred finite moderate] at overflows
  cases overflows

end Frame

-----------------------------------------------------------------------------------------
-- Points of drawings
-----------------------------------------------------------------------------------------

/-- The points of a drawing in output units. -/
def Geometry.points : Geometry → List (Point Float)
  | .frame shape => [shape.p1, shape.p2]
  | .circle shape => [shape.center]
  | .arc shape => [shape.center, shape.first, shape.last]
  | .polygon shape => shape.points
  | .axes shape => [shape.origin, shape.bottomLeft, shape.topRight]
  | .line shape => [shape.first, shape.last]
  | .curve shape => shape.points
  | .binding value => [value.anchor]
  | .label value => [value.place]
  | .slider _ | .units _ => []

/-- The position of the pointer that a command draws at. -/
def Command.drawnPointer? (command : Command) (ctx : Context) : Option (Point Float) :=
  if command.kind = .userLine then ctx.pointer else none

/-- Where a coordinate of a drawing comes from: it is placed, or else it is that of the pointer. -/
inductive IsCoordinate (place : Float → Float) (pointer : Option Float) : Float → Prop
  | placed (v : Float) : IsCoordinate place pointer (place v)
  | pointer {position : Float} (here : pointer = some position) : IsCoordinate place pointer position

/-- A point whose coordinates are placed by the frame, or else are those of a drawn pointer. -/
structure Context.Draws (ctx : Context) (pointer : Option (Point Float)) (p : Point Float)
    : Prop where
  x : IsCoordinate ctx.frame.x (pointer.map (·.x)) p.x
  y : IsCoordinate ctx.frame.y (pointer.map (·.y)) p.y

variable {ctx : Context} {pointer : Option (Point Float)}

theorem Context.draws_point (p : Point Float) : ctx.Draws pointer (ctx.point p) :=
  ⟨.placed p.x, .placed p.y⟩

theorem Pair.draws_resolve (p : Pair) : ctx.Draws pointer (p.resolve ctx) := ctx.draws_point _

namespace Command

theorem UserLine.isCoordinate_follow {place : Float → Float} {near p : Float}
    (start : IsCoordinate place (some p) near) (value : Text → Float) (one two : Option Text)
    : IsCoordinate place (some p) (follow place value near p one two).1
      ∧ IsCoordinate place (some p) (follow place value near p one two).2 := by
  cases two with
  | some two => exact ⟨.placed _, .placed _⟩
  | none =>
      cases one with
      | some one => exact ⟨start, .placed _⟩
      | none => exact ⟨start, .pointer rfl⟩

theorem UserLine.draws_geometry (c : UserLine) (ctx : Context)
    : ctx.Draws ctx.pointer (c.geometry ctx).first
      ∧ ctx.Draws ctx.pointer (c.geometry ctx).last := by
  unfold UserLine.geometry
  cases here : ctx.pointer with
  | none => exact ⟨c.p1.draws_resolve, c.p2.draws_resolve⟩
  | some pointer =>
      have start : ctx.Draws (some pointer) (c.p1.resolve ctx) := c.p1.draws_resolve
      have x (value : Text → Float) := isCoordinate_follow start.x value c.x1 c.x2
      have y (value : Text → Float) := isCoordinate_follow start.y value c.y1 c.y2
      exact ⟨⟨(x _).1, (y _).1⟩, ⟨(x _).2, (y _).2⟩⟩

theorem Axes.draws_geometry (c : Axes) (ctx : Context)
    : ∀ p ∈ (Geometry.axes (c.geometry ctx)).points, ctx.Draws pointer p := by
  unfold Axes.geometry
  split <;> simp [Geometry.points, Pair.draws_resolve, Context.draws_point]

/-- Every point of a drawing is placed by the frame, or drawn at the pointer. -/
theorem draws_geometry (command : Command) (ctx : Context)
    : ∀ p ∈ (command.geometry ctx).points, ctx.Draws (command.drawnPointer? ctx) p := by
  cases command with
  | frame c => simp [geometry, Frame.geometry, Geometry.points, Pair.draws_resolve]
  | circle c => simp [geometry, Circle.geometry, Geometry.points, Pair.draws_resolve]
  | arc c => simp [geometry, Arc.geometry, Geometry.points, Context.draws_point]
  | polygon c =>
      intro p member
      obtain ⟨pair, -, rfl⟩ := List.mem_map.mp member
      exact pair.draws_resolve
  | axes c => exact c.draws_geometry ctx
  | line c =>
      cases second : c.second <;>
        simp [geometry, Line.geometry, Geometry.points, second, Pair.draws_resolve,
          Context.draws_point]
  | userLine c => simp [geometry, Geometry.points, drawnPointer?, kind, c.draws_geometry ctx]
  | plot c =>
      intro p member
      obtain ⟨x, -, rfl⟩ := List.mem_map.mp member
      exact ctx.draws_point _
  | userVariable c =>
      simp [geometry, UserVariable.geometry, Geometry.points, Pair.draws_resolve]
  | label c => simp [geometry, Label.geometry, Geometry.points, Pair.draws_resolve]
  | slider c => simp [geometry, Geometry.points]
  | settings c => simp [geometry, Geometry.points]

end Command

-----------------------------------------------------------------------------------------
-- Finite points
-----------------------------------------------------------------------------------------

/-- A coordinate in output units is finite, or an image whose rounding overflows, or else the one of
a drawn pointer.
-/
def FiniteUnless (place image : Float → Float) (pointer : Option Float) (c : Float) : Prop :=
  c.isFinite = true
  ∨ (∃ v, c = place v ∧ Frame.Overflows v (image v))
  ∨ pointer = some c

theorem IsCoordinate.finiteUnless {place image : Float → Float} {position : Option Float} {c : Float}
    (coordinate : IsCoordinate place position c)
    (finite : ∀ v, (place v).isFinite = true ↔ ¬ Frame.Overflows v (image v))
    : FiniteUnless place image position c := by
  cases coordinate with
  | placed v =>
      by_cases overflows : Frame.Overflows v (image v)
      · exact .inr (.inl ⟨v, rfl, overflows⟩)
      · exact .inl ((finite v).mpr overflows)
  | pointer here => exact .inr (.inr here)

/-- The map into output units gives a finite coordinate for every number, unless the image is so
large that its hundredfold overflows, for which its magnitude has to be 2^1016 or more. So every
point that a command draws is finite, except for such images, and for the position of the pointer,
at which user lines are drawn as it is.
-/
theorem coordinates_finite_unless_overflow (ctx : Context)
    : (∀ v,
        ((ctx.frame.x v).isFinite = true ↔ ¬ Frame.Overflows v (ctx.frame.imageX v))
        ∧ ((ctx.frame.y v).isFinite = true ↔ ¬ Frame.Overflows v (ctx.frame.imageY v)))
      ∧ (∀ v output, (Dyadic.ofFloat output).exponent ≤ 963 → ¬ Frame.Overflows v output)
      ∧ ∀ command : Command,
          ∀ p ∈ (command.geometry ctx).points,
            FiniteUnless ctx.frame.x ctx.frame.imageX
              ((command.drawnPointer? ctx).map (·.x)) p.x
            ∧ FiniteUnless ctx.frame.y ctx.frame.imageY
                ((command.drawnPointer? ctx).map (·.y)) p.y := by
  refine ⟨?_, ?_, ?_⟩
  · intro v
    exact ⟨Frame.isFinite_place_iff, Frame.isFinite_place_iff⟩
  · intro v output moderate
    exact Frame.not_overflows_of_moderate moderate
  · intro command p member
    obtain ⟨x, y⟩ := command.draws_geometry ctx p member
    exact ⟨x.finiteUnless fun v => Frame.isFinite_place_iff,
      y.finiteUnless fun v => Frame.isFinite_place_iff⟩

/-- On a canvas of four centimetres, in the units that hold without a declaration, a large number
has infinite coordinates, and a line to it has an infinite end.
-/
theorem coordinates_infinite_of_large
    : let ctx : Context := .initial ⟨0, 0⟩ ⟨4, 4⟩ {}
      let v : Float := 2e306
      v.isFinite = true
      ∧ (ctx.frame.imageX v).isFinite = true
      ∧ (ctx.frame.x v).isFinite = false
      ∧ (ctx.frame.imageY v).isFinite = true
      ∧ (ctx.frame.y v).isFinite = false
      ∧ (Plan.interpret ["\\psline(2e306,2e306)".toList] ctx).1.records.map (·.geometry.points)
        = [[⟨0, 200⟩, ⟨infinity, -infinity⟩]] := by
  decide +kernel

end LatexFigures
