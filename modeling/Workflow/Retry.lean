import Workflow.Width
import Workflow.Wire.Decoder

/-!
# Retries

How often and how soon a request to a model is made again.  The wait before a further attempt
doubles with every attempt up to a ceiling, and is then spread at random between four and six
fifths of itself.
-/

namespace Workflow

open Wire (Decoder Fields)

/-- How often and how soon a request is made again. -/
structure RetryPolicy where
  maxRetries : Nat
  initialBackoff : Nat
  maxBackoff : Nat
  /-- How many seconds one attempt may take to get an answer started. -/
  attemptTimeout : Nat
deriving DecidableEq, Repr

namespace RetryPolicy

/-- The policy that holds unless another one is configured. -/
def standard : RetryPolicy :=
  ⟨3, 1000, 30000, 60⟩

/-- The greatest number of 64 bits. -/
def ceiling : Nat := Width.span 64 - 1

/-- A power of two, cut off at 64 bits. -/
def cappedPower (n : Nat) : Nat :=
  if n ≥ 64 then ceiling else Width.span n

/-- A product, cut off at 64 bits. -/
def cappedProduct (a b : Nat) : Nat :=
  min (a * b) ceiling

/-- The wait before the attempt after `attempt`, counted from zero, in milliseconds and before it is
spread. -/
def backoff (policy : RetryPolicy) (attempt : Nat) : Nat :=
  min (cappedProduct policy.initialBackoff (cappedPower attempt)) policy.maxBackoff

/-- The wait spread by a number from zero up to one. -/
def spread (millis : Nat) (draw : Float) : Nat :=
  (Float.ofNat millis * (0.8 + draw * 0.4)).toUInt64.toNat

/-- The seconds that an attempt may take; one at least. -/
def patience (policy : RetryPolicy) : Nat :=
  max policy.attemptTimeout 1

/-- A policy as a JSON value. -/
def toJson (policy : RetryPolicy) : Json :=
  Json.ofMembers [("max_retries", .nat policy.maxRetries),
    ("initial_backoff_ms", .nat policy.initialBackoff),
    ("max_backoff_ms", .nat policy.maxBackoff),
    ("attempt_timeout_secs", .nat policy.attemptTimeout)]

/-- Read a policy off a document. -/
def decoder : Decoder RetryPolicy :=
  Wire.record "struct RetryConfig"
    (RetryPolicy.mk
      <$> Fields.withDefault "max_retries" Decoder.nat32 standard.maxRetries
      <*> Fields.withDefault "initial_backoff_ms" Decoder.nat64 standard.initialBackoff
      <*> Fields.withDefault "max_backoff_ms" Decoder.nat64 standard.maxBackoff
      <*> Fields.withDefault "attempt_timeout_secs" Decoder.nat64 standard.attemptTimeout)

end RetryPolicy

end Workflow
