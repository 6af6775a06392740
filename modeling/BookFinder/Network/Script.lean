import BookFinder.Network.Basic

/-! # Servers that answer by a script -/

namespace BookFinder.Network

/-- An answer to one target, or to any. -/
structure ScriptedReply where
  target : Option String
  reply : Reply

/-- The reply to a target that no line of the script is for. -/
def noSuchPage : Reply := .answer 404 .none "no such page".toUTF8.toList 0

def Server.ofScript (script : List ScriptedReply) : Server := fun request =>
  match script.find? fun line => line.target.all (· == request.target) with
  | some line => line.reply
  | none => noSuchPage

end BookFinder.Network

namespace BookFinder

def Network.single (endpoint : Network.Endpoint) (server : Network.Server) : Network :=
  fun other => if other = endpoint then some server else none

end BookFinder
