import MirrorLink.Interface.SoapBody
import MirrorLink.Program.MainWindow

/-!
# What the list shows, and what is launched from it
-/

set_option autoImplicit false

namespace MirrorLink.Program

open MirrorLink.Library

/-- The rows of the list, with those that are on their way. -/
def Gui.shown (g : Gui) : List AppItem := g.window.items ++ g.manager.toWindow.map appItem

/-- The list is emptied when it is started, and at no other time. -/
def GuiEvent.isStart : GuiEvent → Bool
  | .startButton _ _ _ => true
  | _ => false

/-- The request of a launch is read as one with this id, by a server that has a path for it. -/
def RequestsId (appid : UInt32) (n : ℕ) : Prop :=
  ∀ server : RemoteServer, (∃ path, (server.sinfo serviceTypeApp).curl = some path) →
    ∃ text, IsHex text n ∧ ReadsBack (launchRequest server appid 0) "LaunchApplication".toList
      [("AppID".toList, text), ("ProfileID".toList, ascii "0")]

/-- A double click on a row sends a signal to the client, whose request has this id. -/
def LaunchesId (parse : Option (List UInt8) → Option Element) (g : Gui) (row n : ℕ) : Prop :=
  ∃ appid g', guiStep parse g (.doubleClick row 0) = .ok g' ∧
    g'.manager.toClient = g.manager.toClient ++ [.launch appid] ∧ RequestsId appid n

end MirrorLink.Program
