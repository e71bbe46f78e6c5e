import Newswire.Delivery.Outcome
import Newswire.Rejection.Basic
import Newswire.Rule.Fault

/-!
# Events that go out
-/

namespace Newswire.Event

inductive Output where
  | delivered (feed connection article : String) (status : Delivery.Status)
      (trouble : Option Delivery.Trouble)
  | disable (r : DisableRequest)
  | ruleFaults (feed connection : String) (faults : List Rule.Fault)
  deriving Repr, DecidableEq

namespace Output

def isResult : Output → Bool
  | delivered .. => true
  | _ => false

def encode : Output → Json
  | delivered feed connection article status trouble =>
    .obj
      ([("kind", .str "delivery-result"), ("feedId", .str feed), ("connectionId", .str connection),
        ("articleIdHash", .str article), ("outcome", .str status.name)]
        ++ (match trouble with
          | some t => [("errorCode", .str t.name)]
          | none => []))
  | disable ⟨feed, .connection id, reason⟩ =>
    .obj
      [("kind", .str "connection-disable"), ("feedId", .str feed), ("connectionId", .str id),
       ("disableReason", .str reason.name)]
  | disable ⟨feed, .feed, reason⟩ =>
    .obj
      [("kind", .str "feed-disable"), ("feedId", .str feed), ("disableReason", .str reason.name)]
  | ruleFaults feed connection faults =>
    .obj
      [("kind", .str "filter-errors"), ("feedId", .str feed), ("connectionId", .str connection),
       ("errors", .arr (faults.map Rule.Fault.encode))]

end Output

end Newswire.Event
