import WrapperGen.Diagnostic.Snippet
import WrapperGen.Rejection

/-!
Rejections as they are shown to a reader of the description: the reason, and under it the place that
is at fault.
-/

namespace WrapperGen.Rejection

def picture (param : UnknownType) (fileName source : Text) : Picture :=
  let start := Layout.charOffset source param.span.start
  let stop := max (Layout.charOffset source param.span.stop) start
  let snippet : Snippet := {
    fileName, source, start, stop
    label := "`" ++ param.type ++ "` cannot be passed as lParam" }
  [.inked .red "Error:", .plain (" " ++ (unknownType param).message ++ "\n")] ++ snippet.draw

/-- The text that shows a rejection. Only an unknown type has a place in the text. -/
def describe (rejection : Rejection) (fileName source : Text) (colour : Bool) : Text :=
  match rejection with
  | undecodable _ => rejection.message
  | unknownType param => (picture param fileName source).render colour

end WrapperGen.Rejection
