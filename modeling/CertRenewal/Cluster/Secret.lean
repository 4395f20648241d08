import CertRenewal.Cluster.Metadata

/-!
# Secrets

A secret holds bytes under keys. In a document the bytes are written in base64.
-/

namespace CertRenewal.Cluster

structure Secret where
  metadata : Metadata
  type : Option String
  data : Option (List (String × List UInt8))
  /-- The fields that this library does not look at. -/
  others : Json.Fields
  deriving Repr

namespace Secret

def bytesOfText (text : String) : List UInt8 :=
  match Base64.decode (Text.Utf8.encode text.toList) with
  | .ok bytes => bytes
  | .error _ => []

def textOfBytes (bytes : List UInt8) : String :=
  String.ofList (Text.Utf8.decodeLossy (Base64.encode bytes))

def ofJson? (value : Json) : Option Secret := do
  let (metadata, normal) ←
    readObject "Secret"
      [("data", .map .bytes), ("immutable", .bool), ("stringData", .map .string),
        ("type", .string)] value
  let data := (normal.get? "data").map fun data =>
    (Labels.ofJson data).map fun (key, text) => (key, bytesOfText text)
  let others := normal.fields.filter fun (key, _) => key == "immutable" || key == "stringData"
  return ⟨metadata, normal.getString? "type", data, others⟩

def toJson (s : Secret) : Json :=
  let data := s.data.map fun data =>
    Labels.toJson (data.map fun (key, bytes) => (key, textOfBytes bytes))
  writeObject "Secret" s.metadata
    (Metadata.field "data" data ++ Metadata.field "type" (s.type.map .string) ++ s.others)

def get? (s : Secret) (key : String) : Option (List UInt8) :=
  (s.data.getD []).lookup key

end Secret

end CertRenewal.Cluster
