/-
  `ConnectionManager` (`app/websocket/manager.py`) — the table of live device sockets of ONE server
  process.

  asyncio switches tasks only at an `await`, so each method is a sequence of ATOMIC SEGMENTS, the
  stretches of code between two suspension points.  This file gives the segments as pure functions
  on the manager's state:

  * `connect`    = `closeOld` ; (suspended in `old_ws.close`, lock held) ; `register`;
  * `disconnect` = `pop` (both dicts and the start of `websocket.close`, no suspension in between);
  * `send_to_device` = `lookup` ; (suspended in `ws.send_json`) ; on failure `pop`.

  They are put together twice: sequentially in `Dtsys.Server.Session` (a request that nobody
  interleaves with), and step by step under every interleaving in `Dtsys.System.Handlers`.
-/
import Dtsys.Server.Models
import Mathlib.Logic.Function.Basic

namespace Dtsys

/-- The identity of a `WebSocket` object. -/
abbrev Socket := Nat

/-- `_metadata[device_id]`. -/
structure ConnMeta where
  connectedSince : Nat
  ip : String
  deriving DecidableEq, Repr

/-- The state of a `ConnectionManager`; `closed` records the sockets it has called `close` on. -/
structure Manager where
  connections : Uuid → Option Socket
  metadata : Uuid → Option ConnMeta
  closed : Socket → Bool

namespace Manager

/-- `ConnectionManager()`. -/
def empty : Manager := ⟨fun _ => none, fun _ => none, fun _ => false⟩

/-- `websocket.close(code=1000)`, when there is a socket. -/
def close (m : Manager) : Option Socket → Manager
  | some ws => { m with closed := Function.update m.closed ws true }
  | none => m

/-- First segment of `connect`: `await old_ws.close(code=1000)` if the device has an entry. -/
def closeOld (m : Manager) (d : Uuid) : Manager := m.close (m.connections d)

/-- Second segment of `connect`: the two dict assignments. -/
def register (m : Manager) (d : Uuid) (ws : Socket) (info : ConnMeta) : Manager :=
  { m with
    connections := Function.update m.connections d (some ws)
    metadata := Function.update m.metadata d (some info) }

/-- `disconnect`: remove whatever socket the DEVICE has, and close it. -/
def pop (m : Manager) (d : Uuid) : Manager :=
  { m.close (m.connections d) with
    connections := Function.update m.connections d none
    metadata := Function.update m.metadata d none }

/-- `is_connected`. -/
def isConnected (m : Manager) (d : Uuid) : Bool := (m.connections d).isSome

/-! ## What each segment does to the table and to the sockets -/

@[simp] theorem closeOld_connections (m : Manager) (d : Uuid) :
    (m.closeOld d).connections = m.connections := by
  unfold closeOld close
  cases m.connections d with
  | none => rfl
  | some ws => rfl

@[simp] theorem register_connections (m : Manager) (d : Uuid) (ws : Socket) (info : ConnMeta) :
    (m.register d ws info).connections = Function.update m.connections d (some ws) := rfl

@[simp] theorem register_closed (m : Manager) (d : Uuid) (ws : Socket) (info : ConnMeta) :
    (m.register d ws info).closed = m.closed := rfl

@[simp] theorem pop_connections (m : Manager) (d : Uuid) :
    (m.pop d).connections = Function.update m.connections d none := rfl

/-- What is closed is closed for good. -/
theorem close_closed (m : Manager) (o : Option Socket) (ws : Socket) :
    (m.close o).closed ws = (m.closed ws || decide (o = some ws)) := by
  cases o with
  | none => simp [close]
  | some old =>
    by_cases h : ws = old
    · subst h; simp [close]
    · simp [close, h, Ne.symm h]

/-- `connect` closes exactly the socket it replaces. -/
theorem closeOld_closed (m : Manager) (d : Uuid) (ws : Socket) :
    (m.closeOld d).closed ws = (m.closed ws || decide (m.connections d = some ws)) :=
  close_closed m _ ws

/-- `disconnect` closes exactly the socket it removes. -/
theorem pop_closed (m : Manager) (d : Uuid) (ws : Socket) :
    (m.pop d).closed ws = (m.closed ws || decide (m.connections d = some ws)) :=
  close_closed m _ ws

end Manager

end Dtsys
