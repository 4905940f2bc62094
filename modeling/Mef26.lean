import Mef26.Persistence.Budget
import Mef26.Persistence.Versions
import Mef26.Persistence.RoundTrip
import Mef26.Persistence.Authenticity
import Mef26.Persistence.Legacy
import Mef26.Session.Reordering
import Mef26.Envelope.Replay
import Mef26.Envelope.Authenticity
import Mef26.Secrecy.ForwardSecrecy
import Mef26.Secrecy.Recovery
import Mef26.Session.SkippedKeys
import Mef26.Session.Rotations
import Mef26.Handshake.Completeness
import Mef26.Handshake.Replays
import Mef26.Handshake.Concurrency
import Mef26.Envelope.Padding
import Mef26.Crypto.Identifiers
import Mef26.Ratchet.Batches
import Mef26.Parsers
import Mef26.Expiry
import Mef26.Handshake.Signatures
import Mef26.Handshake.Atomicity
import Mef26.Handshake.Upkeep
import Mef26.Handshake.Transcripts
import Mef26.Secrecy.HybridSecrecy
import Mef26.Persistence.Restarts
import Mef26.Session.Post
import Mef26.Session.Forgeries
import Mef26.Domains
