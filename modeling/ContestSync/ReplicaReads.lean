/-
Queries to a replica. `SyncUser`, `Me` and `SavePreferences` send their queries to `ReadDB`, which
may lag behind the database that is written. Nothing is assumed of the lag: a query is answered
from the primary's tables or from any others.
-/

import ContestSync.ProfileTraffic

namespace ContestSync

open Resumable Program

/-- How a request is served, and the tables of the replica that a query goes to, if it goes to
one. -/
structure Reading where
  outcome : Outcome
  replica : Option Database

def World.seen (world : World) (replica : Option Database) : Request → World
  | .selectUser _ | .selectTracked _ | .selectSynced _ | .selectContests _ =>
    world.setDatabase (replica.getD world.database)
  | _ => world

def World.read (world : World) (request : Request) (reading : Reading) :
    World × request.Answer :=
  ((world.serve request reading.outcome).1,
    ((world.seen reading.replica request).serve request reading.outcome).2)

abbrev replicated : Environment service :=
  { State := World
    Outcome := Reading
    serve := World.read }

def World.readUser (world : World) (reading : Reading) (userID : Int) : Option UserRow :=
  (reading.replica.getD world.database).users.find userID

theorem answeredProfile_read {world : World} {request : Request} {reading : Reading}
    {userID : Int} {user : CachedUser}
    (answered : answeredProfile userID request (world.read request reading).2 = some user) :
    (request = .getCachedUser userID ∧ world.valkey.users userID = some user) ∨
      (request = .selectUser userID ∧
        ∃ row, world.readUser reading userID = some row ∧ scanSyncProfile row = some user) := by
  rcases answeredProfile_serve answered with ⟨rfl, hit⟩ | ⟨rfl, found⟩
  · exact Or.inl ⟨rfl, hit⟩
  · exact Or.inr ⟨rfl, found⟩

/-! ### Pools -/

/-- Every request may be served with any outcome, from any replica, and time passes. -/
def anyReading (ι M : Type) : Pool.Rules replicated ι Activity M Response :=
  { permits := fun _ _ _ _ => True
    disturbs := Lapse }

def replicatedPool {M : Type} (work : Workforce service Activity M Response) (world : World) :
    Pool replicated Nat Activity M Response :=
  { state := world
    job := fun _ => .me
    rest := fun _ => .done (.profile none)
    memory := fun _ => work.fresh .me }

theorem replicatedPool_idle {M : Type} (work : Workforce service Activity M Response)
    (world : World) (who : Nat) : (replicatedPool work world).Idle who :=
  ⟨.profile none, rfl⟩

/-- A worker starts a job and makes its first requests, all of them served by the primary. -/
def primaryMoves (who : Nat) (activity : Activity) (requests : Nat) :
    List (Pool.Move replicated Nat Activity) :=
  .start who activity :: List.replicate requests (.serve who ⟨.served, none⟩)

end ContestSync
