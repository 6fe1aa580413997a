import SmoOnline.Shared.Header

/-! What the server takes from its platform. -/

namespace SmoOnline

/-- The platform's share in a run: the lengths a memory pool answers requests with,
and the floating-point steps of flipping a player, by whether they are in a 2D section.
-/
structure Runtime where
  rent : Nat → Nat
  le_rent : ∀ count, count ≤ rent count
  raise : Bool → Vector3 → Vector3
  turn : Quaternion → Quaternion

/-- A pool that answers with the next power of two up to 64 KiB, as the shared pool does, for
runs in which nobody is flipped.
-/
def Runtime.pooled : Runtime where
  rent count :=
    ([16, 32, 64, 128, 256, 512, 1024, 2048, 4096, 8192, 16384, 32768, 65536].find?
      (count ≤ ·)).getD count
  le_rent count := by
    cases found : [16, 32, 64, 128, 256, 512, 1024, 2048, 4096, 8192, 16384, 32768,
      65536].find? (count ≤ ·) with
    | none => exact Nat.le_refl _
    | some length => simpa using List.find?_some found
  raise _ position := position
  turn rotation := rotation

end SmoOnline
