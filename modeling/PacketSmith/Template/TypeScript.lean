import PacketSmith.Template.Basic

/-!
# Templates of TypeScript modules

The module of a message declares its class with the functions that write and read it; the module of
the manager registers the classes of all messages and finds them by id.
-/

namespace PacketSmith.Template

/-- The module of a message. -/
def typescriptMessage : Template := ⟨"typescript.ts.j2", [
  .block "imports" [[.slot "imports"], []],
  .block "doc" [[.slot "doc"]],
  .line [.text "class ", .slot "name", .text " \x7b"],
  .block "fields" [[.text "    ", .slot "fields"], []],
  .line [.text "    protocolId(): number \x7b"],
  .line [.text "        return ", .slot "protocol_id", .text ";"],
  .line [.text "    \x7d"],
  .line [],
  .line [.text "    static write(buffer: any, packet: ", .slot "name", .text " | null) \x7b"],
  .line [.text "        if (buffer.writePacketFlag(packet) || packet === null) \x7b"],
  .line [.text "            return;"],
  .line [.text "        \x7d"],
  .block "write_body" [[.text "        ", .slot "write_body"]],
  .line [.text "    \x7d"],
  .line [],
  .line [.text "    static read(buffer: any): ", .slot "name", .text " | null \x7b"],
  .line [.text "        if (!buffer.readBoolean()) \x7b"],
  .line [.text "            return null;"],
  .line [.text "        \x7d"],
  .line [.text "        const packet = new ", .slot "name", .text "();"],
  .block "read_body" [[.text "        ", .slot "read_body"]],
  .line [.text "        return packet;"],
  .line [.text "    \x7d"],
  .line [.text "\x7d"],
  .line [],
  .line [.text "export default ", .slot "name", .text ";"]]⟩

/-- The module of the manager. -/
def typescriptManager : Template := ⟨"typescript-manager.ts.j2", [
  .block "imports" [[.slot "imports"], []],
  .line [.text "const protocols = new Map<number, any>();"],
  .line [],
  .block "registrations" [[.slot "registrations"], []],
  .line [.text "class ProtocolManager \x7b"],
  .line [.text "    static getProtocol(protocolId: number): any \x7b"],
  .line [.text "        const protocol = protocols.get(protocolId);"],
  .line [.text "        if (protocol === undefined) \x7b"],
  .line [.text "            throw new Error('[protocolId:' + protocolId + '] not exist');"],
  .line [.text "        \x7d"],
  .line [.text "        return protocol;"],
  .line [.text "    \x7d"],
  .line [],
  .line [.text "    static write(buffer: any, packet: any): void \x7b"],
  .line [.text "        const protocolId = packet.protocolId();"],
  .line [.text "        buffer.writeShort(protocolId);"],
  .line [.text "        ProtocolManager.getProtocol(protocolId).write(buffer, packet);"],
  .line [.text "    \x7d"],
  .line [],
  .line [.text "    static read(buffer: any): any \x7b"],
  .line [.text "        const protocolId = buffer.readShort();"],
  .line [.text "        return ProtocolManager.getProtocol(protocolId).read(buffer);"],
  .line [.text "    \x7d"],
  .line [.text "\x7d"],
  .line [],
  .line [.text "export default ProtocolManager;"]]⟩

end PacketSmith.Template
