import Rollout.Digest.Sha256
import Rollout.Fault
import Rollout.Json.Display

/-!
# Percentiles of a population

Every client has an id. The digest of the id, taken with a seed in front of it, gives the client
its place in a population divided into a hundred million equal parts. Two seeds divide the same
population independently of each other. A digest is taken of the encoding of a text, so a seed or an
id with a stray surrogate gives no place.
-/

namespace Rollout.Percentile

/-- The parts into which a population is divided: millionths of a percent. -/
def parts : Nat := 100000000

/-- The fault of a text that has no encoding. It names the first row of stray surrogates. -/
def encodingFault (signs : List Sign) (first : Surrogate) : Fault :=
  let lone : Sign → Bool := (·.char?.isNone)
  let fromFirst := signs.dropWhile (!lone ·)
  .notEncodable first (signs.length - fromFirst.length) (fromFirst.takeWhile lone).length

/-- The characters of a text, or the first of its stray surrogates. -/
def characters : List Sign → Except Surrogate (List Char)
  | [] => .ok []
  | .lone u :: _ => .error u
  | .char c :: rest =>
    match characters rest with
    | .error u => .error u
    | .ok cs => .ok (c :: cs)

/-- The bytes of a text under UTF-8. -/
def encode (signs : List Sign) : Except Fault (List UInt8) :=
  match characters signs with
  | .error u => .error (encodingFault signs u)
  | .ok cs => .ok (String.ofList cs).toUTF8.toList

/-- The number that a text is hashed to: the digest of its bytes. -/
def hash (signs : List Sign) : Except Fault Nat :=
  match encode signs with
  | .error e => .error e
  | .ok bytes => .ok (Digest.sha256Nat bytes)

/-- The text that is hashed: a seed that is set comes first, with a point after it. -/
def seeded (seed : Json) (id : RawText) : List Sign :=
  if seed.isSet then seed.rawText.signs ++ .char '.' :: id.signs else id.signs

/-- The part of the population in which an id falls under a seed. -/
def ofId (seed : Json) (id : RawText) : Except Fault Nat :=
  match hash (seeded seed id) with
  | .error e => .error e
  | .ok n => .ok (n % parts)

theorem lt_of_ofId {seed : Json} {id : RawText} {n : Nat} (h : ofId seed id = .ok n) :
    n < parts := by
  unfold ofId at h
  split at h
  · cases h
  · cases h
    exact Nat.mod_lt _ (by decide)

end Rollout.Percentile
