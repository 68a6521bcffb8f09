/-
# Push payloads

What is posted to a subscriber: changed entities, a heartbeat, or the notice that the subscription
was terminated. A builder turns content into a payload; the standard one writes JSON documents. A
builder may fail with a reason, and it may crash. Documents are posted as text, by a codec that the
program takes as it is.
-/

import TransitHub.Json.Printer
import TransitHub.Push.Subscription

namespace TransitHub

/-- What one payload carries. -/
inductive Content
  /-- Entities of a kind, and whether further payloads of the same batch follow. -/
  | entities (kind : DataKind) (items : List Json) (more : Bool)
  | heartbeat
  | termination

/-- The name of a sort of content. -/
def Content.label : Content → String
  | entities .. => "service_delivery"
  | heartbeat => "heartbeat"
  | termination => "termination"

/-- A document with what must be posted along with it. -/
structure Payload where
  body : Json
  contentType : String
  headers : List (String × String)

/-- The result of building a payload. -/
inductive Built
  | payload (p : Payload)
  | failed (reason : String)
  | crashed

/-- The wording of why a payload was not built. -/
def Built.failure (reason : String) : String := "failed to encode push payload: " ++ reason

/-- A way to build payloads at a point of the wall clock. -/
abbrev PayloadBuilder := Timestamp → Subscription → Content → Built

namespace Payload

/-- The text that is posted. -/
def text (codec : Json.Codec) (p : Payload) : String := codec.write p.body

/-- The document for some content. -/
def document (producer : String) (now : Timestamp) (s : Subscription) : Content → Json
  | .entities kind items more =>
    .object [("serviceDelivery", .object [
      ("responseTimestamp", .string now.offsetText), ("producerRef", .string producer),
      ("subscriptionRef", .string s.id), ("requestorRef", .ofOption .string s.requestor),
      ("moreData", .boolean more), ("kind", kind.toJson), ("items", .array items)])]
  | .heartbeat =>
    .object [("heartbeatNotification", .object [
      ("responseTimestamp", .string now.offsetText), ("producerRef", .string producer),
      ("subscriptionRef", .string s.id), ("status", .boolean true)])]
  | .termination =>
    .object [("subscriptionTerminatedNotification", .object [
      ("responseTimestamp", .string now.offsetText), ("producerRef", .string producer),
      ("subscriptionRef", .string s.id)])]

/-- The payload for some content: a JSON document, and the identifier of the subscription as a
header. -/
def ofContent (producer : String) (now : Timestamp) (s : Subscription) (c : Content) : Payload where
  body := document producer now s c
  contentType := "application/json"
  headers := [("X-Subscription-Id", s.id)]

end Payload

/-- The builder that writes JSON documents. -/
def PayloadBuilder.json (producer : String) : PayloadBuilder := fun now s c =>
  .payload (Payload.ofContent producer now s c)

end TransitHub
