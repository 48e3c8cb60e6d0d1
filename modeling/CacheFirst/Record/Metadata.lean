import CacheFirst.Block
import CacheFirst.Record.Codec

/-!
# Statuses, workers and blocks as JSON

Every field must be given, except a status's time and mode, which default to 0.
-/

namespace CacheFirst

open Json (Value)

instance : Decode Status where
  decode value := do
    let [path, storePath, length, folder, completed, modifiedMs, mode] ←
      fieldValues? ["path", "ufs_path", "length", "folder", "completed",
        "last_modification_time_ms", "mode"] value | none
    return {
      path := ← required path
      storePath := ← required storePath
      length := ← required length
      folder := ← required folder
      completed := ← required completed
      modifiedMs := ← orElse 0 modifiedMs
      mode := ← orElse 0 mode }

instance : Encode Status where
  encode status := .ofFields [
    ("path", encode status.path),
    ("ufs_path", encode status.storePath),
    ("length", encode status.length),
    ("folder", encode status.folder),
    ("completed", encode status.completed),
    ("last_modification_time_ms", encode status.modifiedMs),
    ("mode", encode status.mode)]

instance : Decode Worker where
  decode value := do
    let [host, rpcPort, dataPort] ← fieldValues? ["host", "rpc_port", "data_port"] value | none
    return {
      host := ← required host
      rpcPort := ← required rpcPort
      dataPort := ← required dataPort }

instance : Encode Worker where
  encode worker := .ofFields [
    ("host", encode worker.host),
    ("rpc_port", encode worker.rpcPort),
    ("data_port", encode worker.dataPort)]

instance : Decode BlockSpec where
  decode value := do
    let [storePath, offset, blockSize, maxConcurrency, noCache, mountId] ←
      fieldValues? ["ufs_path", "offset_in_file", "block_size", "max_ufs_read_concurrency",
        "no_cache", "mount_id"] value | none
    return {
      storePath := ← required storePath
      offset := ← required offset
      blockSize := ← required blockSize
      maxConcurrency := ← required maxConcurrency
      noCache := ← required noCache
      mountId := ← required mountId }

instance : Encode BlockSpec where
  encode spec := .ofFields [
    ("ufs_path", encode spec.storePath),
    ("offset_in_file", encode spec.offset),
    ("block_size", encode spec.blockSize),
    ("max_ufs_read_concurrency", encode spec.maxConcurrency),
    ("no_cache", encode spec.noCache),
    ("mount_id", encode spec.mountId)]

instance : Decode Block where
  decode value := do
    let [id, offset, length, worker, storePaths] ←
      fieldValues? ["block_id", "offset", "length", "worker", "ufs_locations"] value | none
    return {
      id := ← required id
      offset := ← required offset
      length := ← required length
      worker := ← required worker
      storePaths := ← required storePaths }

instance : Encode Block where
  encode block := .ofFields [
    ("block_id", encode block.id),
    ("offset", encode block.offset),
    ("length", encode block.length),
    ("worker", encode block.worker),
    ("ufs_locations", encode block.storePaths)]

end CacheFirst
