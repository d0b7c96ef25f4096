import CloudSession.Http.Wire
import CloudSession.Session
import CloudSession.Supplier

/-! # What a service keeps

The wire to the provider, the latch of the credential, and the cells of the caches. The parts are
apart: writing one leaves the others as they are.
-/

namespace CloudSession

structure Store where
  wire : Wire
  latch : Latch := {}
  sessions : Cell Session := {}
  orgMaps : Cell (Fields Value) := {}
  loginUris : Cell Value := {}

namespace Store

instance : Wired Store where
  wire := { read := Store.wire, write := fun w s => { s with wire := w } }

def latchSlot : Slot Store Latch where
  read := latch
  write l s := { s with latch := l }

def sessionSlot : Slot Store (Cell Session) where
  read := sessions
  write c s := { s with sessions := c }

def orgMapSlot : Slot Store (Cell (Fields Value)) where
  read := orgMaps
  write c s := { s with orgMaps := c }

def loginUriSlot : Slot Store (Cell Value) where
  read := loginUris
  write c s := { s with loginUris := c }

end Store

end CloudSession
