import SshServer.Rehearsal.ConnectionScript
import SshServer.Server.Basic

/-!
Contract: a rehearsal of a server, from its options to the connections that it routes.

Owns: the server that was built last, the copies of its handlers that the script keeps by name, and
what every step of the script answers.
Does not own: the server itself (`Server.Basic`), and the connections
(`Rehearsal.ConnectionScript`).
-/

namespace SshServer.Rehearsal

/-- A server with the copies of its handlers that were kept. -/
structure ServerWorld where
  server : Option (Server Routine Behaviour) := none
  snapshots : List (String × Registry Cast) := []

inductive ServerStep where
  | build (options : ServerOptions Routine Behaviour)
  | options
  | types (snapshot : Option String)
  | describe
  | handleChannel (channelType label : String)
  | snapshot (name : String)
  /-- Opens a channel on a connection that has the handlers, or a copy of them. -/
  | route (snapshot : Option String) (context : Context) (channelType : String)
      (requests : List (String × ByteArray × Bool))
  | listen

inductive ServerAnswer where
  | ok
  | failed (cause : Failure)
  | absent
  | options (options : ServerOptions Routine Behaviour)
  | names (list : List String)
  | text (content : String)
  | route (answer : RouteAnswer)
  | serving
  | unavailable

namespace ServerWorld

def handlers? (world : ServerWorld) (server : Server Routine Behaviour) :
    Option String → Option (Registry Cast)
  | none => some server.handlers
  | some name => world.snapshots.lookup name

/-- Performs a step that needs a server. -/
def serve (world : ServerWorld) (server : Server Routine Behaviour) :
    ServerStep → ServerWorld × ServerAnswer
  | .build _ => (world, .ok)
  | .options => (world, .options server.options)
  | .types snapshot =>
    match world.handlers? server snapshot with
    | some handlers => (world, .names handlers.types)
    | none => (world, .unavailable)
  | .describe => (world, .text server.describe)
  | .handleChannel channelType label =>
    ({ world with server := some (server.handleChannel channelType (.other (.greet label))) }, .ok)
  | .snapshot name =>
    let others := world.snapshots.filter fun entry => entry.1 != name
    ({ world with snapshots := (name, server.handlers) :: others }, .ok)
  | .route snapshot context channelType requests =>
    match world.handlers? server snapshot with
    | some handlers => (world, .route (playRoute handlers context channelType requests))
    | none => (world, .unavailable)
  | .listen =>
    match server.listen Host.isolated with
    | .ok _ => (world, .serving)
    | .error cause => (world, .failed cause)

/-- Performs a step. A server that cannot be built leaves the one before in its place. -/
def perform (world : ServerWorld) (step : ServerStep) : ServerWorld × ServerAnswer :=
  match step with
  | .build options =>
    match Server.build options with
    | .ok server => ({ world with server := some server }, .ok)
    | .error cause => (world, .failed cause)
  | step =>
    match world.server with
    | none => (world, .absent)
    | some server => world.serve server step

def play : ServerWorld → List ServerStep → List ServerAnswer
  | _, [] => []
  | world, step :: rest =>
    let (world, answer) := world.perform step
    answer :: play world rest

end ServerWorld

/-- Plays a script, beginning without a server. -/
def playServer (script : List ServerStep) : List ServerAnswer :=
  ServerWorld.play {} script

end SshServer.Rehearsal
