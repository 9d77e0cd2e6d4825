import Stagecraft.Journal

/-!
# Host

What the program drives outside the scenes: two music channels, the camera and
the node tree.
-/

namespace Stagecraft

/-- A music channel: its latest track, and whether it plays. -/
structure MusicChannel where
  track : Option UInt16
  playing : Bool
deriving DecidableEq, Repr

namespace MusicChannel

def silent : MusicChannel := ⟨none, false⟩

/-- Puts a track on; whether the channel plays stays as it is. -/
def load (track : UInt16) (channel : MusicChannel) : MusicChannel :=
  { channel with track := some track }

def play (channel : MusicChannel) : MusicChannel :=
  { channel with playing := true }

def stop (channel : MusicChannel) : MusicChannel :=
  { channel with playing := false }

end MusicChannel

/-- Everything outside the scenes. -/
structure Host where
  nodes : NodeTree
  music : MusicChannel
  menu : MusicChannel
  focus : Option Vec3

namespace Host

def quiet : Host := ⟨NodeTree.empty, MusicChannel.silent, MusicChannel.silent, none⟩

/-- The host of a game without display or sound: the menu music is on. -/
def headless : Host :=
  { quiet with menu := (MusicChannel.silent.load 0).play }

def changeChannel (channel : Channel)
    (change : MusicChannel → MusicChannel) (host : Host) : Host :=
  match channel with
  | .music => { host with music := change host.music }
  | .menu => { host with menu := change host.menu }

/-- What a call does to the host. Actors have no body to animate. -/
def perform (host : Host) : HostCall → Host
  | .load channel track => host.changeChannel channel (MusicChannel.load track)
  | .play channel => host.changeChannel channel MusicChannel.play
  | .stop channel => host.changeChannel channel MusicChannel.stop
  | .camera _ focus => { host with focus := focus }
  | .animate _ _ _ => host
  | .behave _ _ _ => host

/-- The calls that start the music of a scene, unless music plays already. -/
def musicCalls (host : Host) (track : UInt16) : List HostCall :=
  if host.music.playing then
    []
  else
    [.load .music track, .stop .menu, .play .music]

end Host

end Stagecraft
