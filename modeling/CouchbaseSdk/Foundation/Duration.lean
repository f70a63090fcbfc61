import Mathlib.Data.UInt

/-!
# Durations

A duration has seconds of 64 bits and the nanoseconds of less than a second.
-/

namespace CouchbaseSdk
namespace Foundation

structure Duration where
  nanos : Nat
  valid : nanos < 2 ^ 64 * 10 ^ 9
deriving DecidableEq

namespace Duration

def asNanos (d : Duration) : Nat := d.nanos

def asMillis (d : Duration) : Nat := d.nanos / 10 ^ 6

def asSecs (d : Duration) : Nat := d.nanos / 10 ^ 9

def fromNanos (nanos : UInt64) : Duration where
  nanos := nanos.toNat
  valid := by
    have hlt := nanos.toNat_lt
    omega

def fromMillis (millis : UInt64) : Duration where
  nanos := millis.toNat * 10 ^ 6
  valid := by
    have hlt := millis.toNat_lt
    omega

def fromSecs (secs : UInt64) : Duration where
  nanos := secs.toNat * 10 ^ 9
  valid := by
    have hlt := secs.toNat_lt
    omega

end Duration
end Foundation
end CouchbaseSdk
