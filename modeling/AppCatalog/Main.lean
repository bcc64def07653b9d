import AppCatalog.Server

/-!
# The program

A server for the requests on its standard input, which is read to its end: each of them is
answered on the standard output, in order. Settings come from the working directory. A database
lives as long as the program.
-/

namespace AppCatalog

/-- The file system as far as the program sees it: the settings file, if there is one. -/
def visibleFiles : IO Files := do
  let files := Files.fresh [Utf8.encode "srv"]
  let some path := Settings.searchPaths.head? | return files
  try
    let bytes ← IO.FS.readBinFile path
    return match files.write (.ofText path) bytes.toList with
      | .ok files => files
      | .error _ => files
  catch _ => return files

/-- Reads a stream to its end. -/
partial def readAll (stream : IO.FS.Stream) (found : ByteArray) : IO Bytes := do
  let bytes ← stream.read 65536
  if bytes.isEmpty then return found.toList else readAll stream (found ++ bytes)

/-- Answers requests until nothing is left or a request cannot be told from the next. -/
partial def serveFrom (server : Server) (supply : Supply) (output : IO.FS.Stream)
    (bytes : Bytes) : IO Unit := do
  if bytes.isEmpty then return
  let (response, server) := server.exchange supply bytes
  output.write (ByteArray.mk (Wire.response response).toArray)
  output.flush
  if let .ok (_, rest) := Wire.readRequest bytes then
    serveFrom server supply output rest

end AppCatalog

open AppCatalog in
/-- Starts the server and serves the standard input; fails if the server does not start. -/
def main : IO UInt32 := do
  let seed ← IO.rand 0 0xFFFFFFFFFFFFFFF
  let now ← IO.monoMsNow
  let supply : Supply := fun n => .ofBits ((seed <<< 62) + n) now
  match (Server.start (← visibleFiles) now).1 with
  | .error error =>
    IO.eprintln error.report
    return 1
  | .ok server =>
    serveFrom server supply (← IO.getStdout) (← readAll (← IO.getStdin) .empty)
    return 0
