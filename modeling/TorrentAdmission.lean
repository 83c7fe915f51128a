import TorrentAdmission.Bus.Exchange
import TorrentAdmission.Desk.Watch
import TorrentAdmission.Event.Summary
import TorrentAdmission.Json.Printer
import TorrentAdmission.Metrics.Bank
import TorrentAdmission.Samples
import TorrentAdmission.Settings.Environment
import TorrentAdmission.Startup
import TorrentAdmission.Proofs.Bus.Answers
import TorrentAdmission.Proofs.Bus.Opening
import TorrentAdmission.Proofs.Bus.Resumption
import TorrentAdmission.Proofs.Desk.Abandonment
import TorrentAdmission.Proofs.Desk.Audience
import TorrentAdmission.Proofs.Desk.Calling
import TorrentAdmission.Proofs.Desk.Census
import TorrentAdmission.Proofs.Desk.Discretion
import TorrentAdmission.Proofs.Desk.Downloading
import TorrentAdmission.Proofs.Desk.Hints
import TorrentAdmission.Proofs.Desk.Independence
import TorrentAdmission.Proofs.Desk.Settling
import TorrentAdmission.Proofs.Json.Lossless
import TorrentAdmission.Proofs.Metrics.Bank
import TorrentAdmission.Proofs.Resolution.Racing
import TorrentAdmission.Proofs.Settings.Document
import TorrentAdmission.Proofs.Settings.Number
import TorrentAdmission.Proofs.Settings.Opening
import TorrentAdmission.Proofs.Settings.Overlay
import TorrentAdmission.Proofs.Torrent.Decoding
import TorrentAdmission.Proofs.Torrent.MagnetLink
