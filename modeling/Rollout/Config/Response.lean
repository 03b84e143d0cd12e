import Rollout.Config.Basic
import Rollout.Text.Digit

/-!
# Responses

A response is a configuration as it is sent to a client: every value as a text, under a status
and a tag. A tag that is not given is drawn anew for every response.
-/

namespace Rollout

/-- A configuration on its way to a client. -/
structure Response where
  status : Int
  tag : String
  config : List (String × Json)
  deriving Repr

namespace Response

/-- The status of a response to a request that succeeded. -/
def statusOk : Int := 200

/-- The text with which drawn tags begin. -/
def tagStart : String := "etag-"

/-- The number of tags that can be drawn. -/
def tagCount : Nat := 100000000000000

/-- The tag of a draw. -/
def drawnTag (draw : Nat) : String :=
  tagStart ++ String.ofList (Text.natDigits (draw % tagCount))

/-- Recognise the tag of some draw: a number below the count of tags, written without zeros in
front of it. -/
def isDrawnTag (tag : String) : Bool :=
  let start := tagStart.toList
  let digits := tag.toList.drop start.length
  start.isPrefixOf tag.toList && !digits.isEmpty && digits.all Text.isAsciiDigit &&
    (digits.length == 1 || digits.head? != some '0') && Text.digitsToNat digits < tagCount

/-- The response with the given parts. A missing tag is drawn, a missing status means success. -/
def make (config : List (String × Json)) (tag : Option String) (status : Option Int)
    (draw : Nat) : Response :=
  { status := status.getD statusOk
    tag := tag.getD (drawnTag draw)
    config := config }

/-- The response that sends a configuration. -/
def ofConfig (config : Config) (draw : Nat) : Response :=
  make (config.entries.map fun (key, value) => (key, .str value.text)) none none draw

/-- The object that is sent. -/
def toJson (r : Response) : Json :=
  .obj [("status", .int r.status), ("e_tag", .str r.tag), ("config", .obj r.config)]

end Response

end Rollout
