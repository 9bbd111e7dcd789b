/-
# Documents

The configuration of a node as a document: settings, then a table for each peer, then a table
for each keygroup. A table starts with its name in doubled brackets and holds one field on each
line.
-/
import ClusterConfig.Peer
import ClusterConfig.Keygroup

namespace ClusterConfig

/-- The configuration of a node. -/
structure Document where
  settings : List Field
  peers : List Peer
  keygroups : List Keygroup
  deriving DecidableEq, Repr

/-- The fields of a peer in the order in which they are written. -/
def Peer.fields (peer : Peer) : List Field :=
  [⟨"id_card", .number peer.index⟩, ⟨"ip", .text peer.address.host⟩,
    ⟨"port", .number peer.address.port.toNat⟩]

namespace Document

/-! ## Writing -/

/-- The line that a table starts with. -/
def headerChars (name : String) : List Char := ['[', '['] ++ name.toList ++ [']', ']', '\n']

/-- A table: its header and its fields. -/
def tableChars (name : String) (fields : List Field) : List Char :=
  headerChars name ++ fields.flatMap Field.chars

/-- The name of the tables of peers. -/
def peersName : String := "peers"

/-- The name of the tables of keygroups. -/
def keygroupsName : String := "keygroups"

/-- The tables of a document, each with its name. -/
def tables (document : Document) : List (String × List Field) :=
  document.peers.map (fun peer => (peersName, peer.fields)) ++
    document.keygroups.map fun keygroup => (keygroupsName, keygroup.fields)

/-- A document as it is written. -/
def chars (document : Document) : List Char :=
  document.settings.flatMap Field.chars ++
    document.tables.flatMap fun (name, fields) => tableChars name fields

/-- A document as text. -/
def render (document : Document) : String := String.ofList document.chars

end Document

end ClusterConfig
