/-! The one-at-a-time hash that turns an event name into its category. A byte is
mixed into the running word by two reversible rounds, and the finished word is
masked; all arithmetic is that of 32-bit words. -/
namespace EventEngine.Hash

def mix (hash : UInt32) (byte : UInt8) : UInt32 :=
  let added := hash + byte.toUInt32
  let spread := added + (added <<< 10)
  spread ^^^ (spread >>> 6)

/-- The last bytes are spread over the whole word. -/
def finish (hash : UInt32) : UInt32 :=
  let spread := hash + (hash <<< 3)
  let folded := spread ^^^ (spread >>> 11)
  folded + (folded <<< 15)

/-- The hash of a byte string, cut down to the bits of the mask. -/
def oneAtATime (bytes : List UInt8) (mask : UInt32) : UInt32 :=
  finish (bytes.foldl mix 0) &&& mask

def fullMask : UInt32 := 0xffffffff

end EventEngine.Hash
