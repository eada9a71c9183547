import AlarmHistory.CommandLine.Run
import AlarmHistory.Store.Wire
import Std.Async.DNS
import Std.Async.TCP
/- The program: files and connections for the command line. -/
namespace AlarmHistory.Program

open Store Std.Async Std.Net

def usualPort : Nat := 80

partial def receive (socket : TCP.Socket.Client) (got : ByteArray) : Async ByteArray := do
  match ← socket.recv? 65536 with
  | none => return got
  | some bytes => receive socket (got ++ bytes)

def socketAddress (port : UInt16) : IPAddr → SocketAddress
  | .v4 addr => .v4 ⟨addr, port⟩
  | .v6 addr => .v6 ⟨addr, port⟩

/-- The host by which to look an address up, without the brackets of a number. -/
def lookupName (a : Address) : String :=
  String.ofList ((a.host.getD "").toList.filter fun c => !(c == '[' || c == ']'))

def exchange (r : Request) : Async ByteArray := do
  let addresses ← DNS.getAddrInfo (lookupName r.address) ""
  match addresses[0]? with
  | none => return ByteArray.empty
  | some addr =>
    let socket ← TCP.Socket.Client.mk
    socket.connect (socketAddress (UInt16.ofNat (r.address.port.getD usualPort)) addr)
    socket.send r.message.toUTF8
    receive socket ByteArray.empty

partial def await (task : Task (Except IO.Error ByteArray)) (ms : Nat) :
    IO (Option ByteArray) := do
  if ← IO.hasFinished task then return task.get.toOption
  else if ms = 0 then return none
  else
    let pause := min ms 5
    IO.sleep (UInt32.ofNat pause)
    await task (ms - pause)

/-- Sends a request. Only plain connections are supported. -/
def send (r : Request) : IO Reply := do
  if r.address.scheme != "http" then return .unanswered
  let task ← Async.toIO (exchange r)
  return match ← await task r.timeoutMs with
    | some bytes => Wire.reply bytes.toList
    | none => .unanswered

def link : Link IO where
  send := send
  wait ms := IO.sleep (UInt32.ofNat (min ms 4294967295))

def faultOfNumber : UInt32 → Option CommandLine.FileFault
  | 2 => some .notFound
  | 13 => some .denied
  | 20 => some .notFolder
  | 21 => some .isFolder
  | 36 => some .nameTooLong
  | _ => none

def faultOf (e : IO.Error) : CommandLine.FileFault :=
  let number : Option UInt32 := match e with
    | .noFileOrDirectory _ n _ => some n
    | .permissionDenied _ n _ => some n
    | .inappropriateType _ n _ => some n
    | .invalidArgument _ n _ => some n
    | .otherError n _ => some n
    | _ => none
  (number.bind faultOfNumber).getD (.other (toString e))

def readFile (path : String) : IO (Except CommandLine.FileFault String) := do
  try
    match String.fromUTF8? (← IO.FS.readBinFile path) with
    | some text => return .ok text
    | none => return .error .notText
  catch e => return .error (faultOf e)

end AlarmHistory.Program

open AlarmHistory in
def main (args : List String) : IO UInt32 := do
  let outcome ← CommandLine.perform Program.readFile Program.link args
  IO.print outcome.output
  IO.eprint outcome.complaint
  return outcome.exit.toUInt32
